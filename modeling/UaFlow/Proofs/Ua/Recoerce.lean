import UaFlow.Ua.Coerce
import UaFlow.Proofs.Ua.NodeIdText
import UaFlow.Proofs.Time.Stamp
import UaFlow.Proofs.Except
/-!
# Coercing a coerced value again

A downstream node coerces the JSON form of an upstream node's value under the same data type.
For every type but the floating-point ones this gives back a value with the same JSON form,
except in two places: a qualified name is written as an object `{namespaceIndex, name}` but read
only from a text, and a stamp whose year is outside `0..9999` is written with a sign and at least
four digits of year, which the RFC 3339 reader refuses. `coerce_toValue_iff` says that coercing
the JSON form again succeeds with the same JSON form exactly when no element is such a value, and
fails otherwise.

Each reader leaves its result in a form its printer writes back readably: integers within their
kind, node ids the node id reader can return, bytes below 256 and 128-bit guids
(`Scalar.Coerced`). From there each data type is a round trip of its own.
-/

namespace UaFlow.Ua

open UaFlow.Json UaFlow.Float UaFlow.Codec UaFlow.Time UaFlow.Text

/-- What a coercion guarantees of the scalar it returns, beyond its data type. -/
def Scalar.Coerced : Scalar → Prop
  | .integer k i => k.lo ≤ i ∧ i ≤ k.hi
  | .nodeId n => n.Readable
  | .byteString bs => AreBytes bs
  | .guid u => u.value < Uuid.bound
  | _ => True

/-- The scalars whose JSON form coerces back: all but qualified names and stamps whose year is
outside `0..9999`. -/
def Scalar.Reprintable : Scalar → Prop
  | .qualifiedName _ => False
  | .dateTime t => 0 ≤ t.year ∧ t.year ≤ 9999
  | _ => True

instance : DecidablePred Scalar.Reprintable := fun s =>
  match s with
  | .qualifiedName _ => inferInstanceAs (Decidable False)
  | .dateTime t => inferInstanceAs (Decidable (0 ≤ t.year ∧ t.year ≤ 9999))
  | .boolean _ => inferInstanceAs (Decidable True)
  | .integer _ _ => inferInstanceAs (Decidable True)
  | .float _ => inferInstanceAs (Decidable True)
  | .double _ => inferInstanceAs (Decidable True)
  | .string _ => inferInstanceAs (Decidable True)
  | .localizedText _ => inferInstanceAs (Decidable True)
  | .nodeId _ => inferInstanceAs (Decidable True)
  | .byteString _ => inferInstanceAs (Decidable True)
  | .guid _ => inferInstanceAs (Decidable True)

/-- The variants whose JSON form coerces back: a scalar that does, or an array all of whose
elements do. -/
def Variant.Reprintable : Variant → Prop
  | .scalar s => s.Reprintable
  | .array _ items => ∀ s ∈ items, s.Reprintable

instance : DecidablePred Variant.Reprintable := fun v =>
  match v with
  | .scalar s => inferInstanceAs (Decidable s.Reprintable)
  | .array _ items => inferInstanceAs (Decidable (∀ s ∈ items, s.Reprintable))

/-! ## What a coercion returns -/

theorem bounds_of_readKindInteger {t : DataType} {k : IntKind} {raw : Value} {i : Int}
    (h : readKindInteger t k raw = .ok i) : k.lo ≤ i ∧ i ≤ k.hi := by
  -- every way of reading the integer ends in the same range check
  have hcheck : ∀ x : Except CoercionError Int, (x >>= fun wide =>
      if k.lo ≤ wide ∧ wide ≤ k.hi then pure wide else invalid t (toString wide) .outOfRange) = .ok i →
      k.lo ≤ i ∧ i ≤ k.hi := by
    intro x hx
    obtain ⟨wide, -, hx⟩ := bind_eq_ok.mp hx
    split at hx
    · rename_i hbounds
      cases hx
      exact hbounds
    · cases hx
  unfold readKindInteger at h
  dsimp only at h
  split at h
  · split at h
    · exact hcheck _ h
    · split at h
      · exact hcheck _ h
      · exact hcheck _ h
  · split at h
    · exact hcheck _ h
    · split at h
      · exact hcheck _ h
      · exact hcheck _ h
  · exact hcheck _ h

theorem areBytes_of_readByteList {items : List Value} {bs : List Nat} (h : readByteList items = .ok bs) :
    AreBytes bs := by
  intro b hb
  obtain ⟨item, -, hitem⟩ := mem_of_mapM_eq_ok h b hb
  cases hi : readKindInteger .byteString .byte item with
  | error e =>
    rw [hi] at hitem
    cases hitem
  | ok i =>
    rw [hi] at hitem
    cases hitem
    have hbounds := bounds_of_readKindInteger hi
    have hhi : IntKind.hi .byte = 255 := rfl
    have hlo : IntKind.lo .byte = 0 := rfl
    show i.toNat < 256
    omega

/-- A coercion returns a scalar of the data type asked for, in the form its printer writes back
readably. -/
theorem coerceScalar_coerced {dt : DataType} {raw : Value} {s : Scalar} (h : coerceScalar dt raw = .ok s) :
    s.dataType = dt ∧ s.Coerced := by
  cases dt with
  | boolean =>
    obtain ⟨b, -, rfl⟩ := map_eq_ok.mp h
    exact ⟨rfl, trivial⟩
  | integer k =>
    obtain ⟨i, hi, rfl⟩ := map_eq_ok.mp h
    exact ⟨rfl, bounds_of_readKindInteger hi⟩
  | float =>
    obtain ⟨x, -, h⟩ := bind_eq_ok.mp h
    dsimp only at h
    split at h
    · cases h
      exact ⟨rfl, trivial⟩
    · cases h
  | double =>
    obtain ⟨x, -, rfl⟩ := map_eq_ok.mp h
    exact ⟨rfl, trivial⟩
  | string =>
    dsimp only [coerceScalar] at h
    split at h
    · cases h
    · cases h
      exact ⟨rfl, trivial⟩
  | localizedText =>
    obtain ⟨x, -, rfl⟩ := map_eq_ok.mp h
    exact ⟨rfl, trivial⟩
  | dateTime =>
    obtain ⟨x, -, rfl⟩ := map_eq_ok.mp h
    exact ⟨rfl, trivial⟩
  | nodeId =>
    dsimp only [coerceScalar] at h
    split at h
    · split at h
      · rename_i n hn
        cases h
        exact ⟨rfl, NodeId.readable_of_parse? (trim_getLast? _) hn⟩
      · cases h
    · cases h
  | qualifiedName =>
    dsimp only [coerceScalar] at h
    split at h
    · split at h
      · cases h
        exact ⟨rfl, trivial⟩
      · cases h
    · cases h
  | byteString =>
    dsimp only [coerceScalar] at h
    split at h
    · split at h
      · rename_i bs hbs
        cases h
        exact ⟨rfl, areBytes_of_decode hbs⟩
      · cases h
    · obtain ⟨bs, hbs, rfl⟩ := map_eq_ok.mp h
      exact ⟨rfl, areBytes_of_readByteList hbs⟩
    · cases h
  | guid =>
    dsimp only [coerceScalar] at h
    split at h
    · split at h
      · rename_i u hu
        cases h
        exact ⟨rfl, Uuid.value_lt_of_parse hu⟩
      · cases h
    · cases h

/-! ## Each data type reads its JSON form back -/

/-- Every integer kind lies within 64 bits, signed or unsigned. -/
theorem IntKind.bounds_within (k : IntKind) : -Int.pow 2 63 ≤ k.lo ∧ k.hi ≤ Int.pow 2 64 - 1 := by
  cases k <;> decide

/-- An integer within its kind, written as a JSON number, reads back as itself: as a signed
64-bit integer, or else as an unsigned one. -/
theorem readKindInteger_ofInt (t : DataType) {k : IntKind} {i : Int} (hk : k.lo ≤ i ∧ i ≤ k.hi) :
    readKindInteger t k (.num (Number.ofInt i)) = .ok i := by
  have hwide := k.bounds_within
  unfold readKindInteger
  dsimp only
  by_cases hsigned : -Int.pow 2 63 ≤ i ∧ i ≤ Int.pow 2 63 - 1
  · simp only [Number.asInt64?, Number.ofInt, readIntegerIn_toString, if_pos hsigned, pure_bind,
      if_pos hk]
    rfl
  · have hunsigned : 0 ≤ i ∧ i ≤ Int.pow 2 64 - 1 := by
      have h63 : Int.pow 2 63 = 9223372036854775808 := rfl
      omega
    simp only [Number.asInt64?, Number.asUInt64?, Number.ofInt, readIntegerIn_toString,
      if_neg hsigned, if_pos hunsigned, pure_bind, if_pos hk]
    rfl

/-- The text of an instant is read as a stamp, never as milliseconds. -/
theorem readInstant_stampText_ok (dt : DataType) {date : CivilDate} {hour minute second milli : Nat}
    {i : Instant} (h : Instant.ofRfc3339 (stampText date hour minute second milli) = .ok i) :
    readInstant dt (.str (stampText date hour minute second milli)) = .ok i := by
  unfold readInstant
  simp only [trim_stampText, readIntegerIn_stampText, h]

theorem readInstant_stampText_error (dt : DataType) {date : CivilDate} {hour minute second milli : Nat}
    {e : StampError} (h : Instant.ofRfc3339 (stampText date hour minute second milli) = .error e) :
    readInstant dt (.str (stampText date hour minute second milli)) =
      invalid dt (stampText date hour minute second milli) (.stamp e) := by
  unfold readInstant
  simp only [trim_stampText, readIntegerIn_stampText, h]

theorem readInstant_render (dt : DataType) {t : Instant} (h : 0 ≤ t.year ∧ t.year ≤ 9999) :
    ∃ t', readInstant dt (.str t.render) = .ok t' ∧ t'.render = t.render := by
  obtain ⟨t', hread, hrender⟩ := Instant.ofRfc3339_render h
  rw [Instant.render_eq] at hread ⊢
  exact ⟨t', readInstant_stampText_ok dt hread, hrender⟩

theorem readInstant_render_error (dt : DataType) {t : Instant} (h : ¬ (0 ≤ t.year ∧ t.year ≤ 9999)) :
    ∃ e, readInstant dt (.str t.render) = .error e := by
  obtain ⟨e, he⟩ := ofRfc3339_stampText_error h ((t.seconds.fmod 86400).toNat / 3600)
    ((t.seconds.fmod 86400).toNat / 60 % 60) t.shownSecond (t.nanos % 1000000000 / 1000000)
  rw [Instant.render_eq, readInstant_stampText_error dt he]
  exact ⟨_, rfl⟩

theorem readLocalizedText_object (dt : DataType) (l : LocalizedText) :
    readLocalizedText dt (Value.object [("locale", .str l.locale), ("text", .str l.text)]) = .ok l := by
  -- the members are already in key order, so the object keeps them as given
  have hlt : ¬ ("text" < "locale") := by decide
  have hmembers : Members.ofList [("locale", Value.str l.locale), ("text", .str l.text)] =
      [("locale", .str l.locale), ("text", .str l.text)] := by
    simp [Members.ofList, Members.insert, hlt]
  simp [readLocalizedText, Value.object, hmembers, Members.find?]

/-! ## Scalars -/

/-- A coerced scalar that is reprintable coerces back, from its JSON form under its own data
type, to a scalar with the same JSON form. -/
theorem coerceScalar_toValue {s : Scalar} (hc : s.Coerced) (hr : s.Reprintable)
    (hfloat : s.dataType ≠ .float ∧ s.dataType ≠ .double) :
    ∃ s', coerceScalar s.dataType s.toValue = .ok s' ∧ s'.toValue = s.toValue := by
  cases s with
  | boolean b => exact ⟨.boolean b, rfl, rfl⟩
  | integer k i =>
    refine ⟨.integer k i, ?_, rfl⟩
    simp only [Scalar.dataType, Scalar.toValue, coerceScalar, readKindInteger_ofInt _ hc, map_ok]
  | float x => exact absurd rfl hfloat.1
  | double x => exact absurd rfl hfloat.2
  | string str => exact ⟨.string str, rfl, rfl⟩
  | localizedText l =>
    refine ⟨.localizedText l, ?_, rfl⟩
    simp only [Scalar.dataType, Scalar.toValue, coerceScalar, readLocalizedText_object, map_ok]
  | dateTime t =>
    -- the stamp read back may differ below the millisecond, but not in its text
    obtain ⟨t', hread, hrender⟩ := readInstant_render .dateTime hr
    refine ⟨.dateTime t', ?_, ?_⟩
    · simp only [Scalar.dataType, Scalar.toValue, coerceScalar, hread, map_ok]
    · simp only [Scalar.toValue, hrender]
  | nodeId n =>
    refine ⟨.nodeId n, ?_, rfl⟩
    simp only [Scalar.dataType, Scalar.toValue, coerceScalar, NodeId.trim_render hc, NodeId.parse?_render hc]
  | qualifiedName q => exact hr.elim
  | byteString bs =>
    have htrim : trim (encode bs) = encode bs := by
      apply trim_eq_self_of_visible
      rw [encode, String.toList_ofList]
      exact isVisible_encodeBytes bs
    refine ⟨.byteString bs, ?_, rfl⟩
    simp only [Scalar.dataType, Scalar.toValue, coerceScalar, htrim, decode_encode hc]
  | guid u =>
    have htrim : trim u.hyphenated = u.hyphenated := trim_eq_self_of_visible (isVisible_hyphenated u)
    refine ⟨.guid u, ?_, rfl⟩
    simp only [Scalar.dataType, Scalar.toValue, coerceScalar, htrim, Uuid.parse_hyphenated u hc]

/-- A scalar that is not reprintable fails to coerce from its JSON form under its own type. -/
theorem coerceScalar_toValue_error {s : Scalar} (hr : ¬ s.Reprintable) :
    ∃ e, coerceScalar s.dataType s.toValue = .error e := by
  cases s with
  | qualifiedName q => exact ⟨_, rfl⟩
  | dateTime t =>
    obtain ⟨e, he⟩ := readInstant_render_error .dateTime hr
    exact ⟨e, by simp only [Scalar.dataType, Scalar.toValue, coerceScalar, he, map_error]⟩
  | _ => exact absurd trivial hr

/-- The elements of an array, all coerced under one type that is not floating point and all
reprintable, coerce again from their JSON forms to elements with the same JSON forms. -/
theorem mapM_coerceScalar_toValue {dt : DataType} {els : List Scalar}
    (hcoerced : ∀ s ∈ els, s.dataType = dt ∧ s.Coerced) (hfloat : dt ≠ .float ∧ dt ≠ .double)
    (hall : ∀ s ∈ els, s.Reprintable) :
    ∃ els', (els.map Scalar.toValue).mapM (coerceScalar dt) = .ok els' ∧
      els'.map Scalar.toValue = els.map Scalar.toValue := by
  have hforall : ∀ a ∈ els.map Scalar.toValue,
      ∃ b, coerceScalar dt a = .ok b ∧ Scalar.toValue b = id a := by
    intro a ha
    obtain ⟨s, hs, rfl⟩ := List.mem_map.mp ha
    obtain ⟨hdt, hc⟩ := hcoerced s hs
    rw [← hdt]
    exact coerceScalar_toValue hc (hall s hs) (hdt ▸ hfloat)
  obtain ⟨els', hels', hmap⟩ := mapM_eq_ok_of_forall hforall
  exact ⟨els', hels', by rw [hmap, List.map_id]⟩

/-- One element that does not read back makes coercing all the elements again fail. -/
theorem mapM_coerceScalar_toValue_error {dt : DataType} {els : List Scalar}
    (hdt : ∀ s ∈ els, s.dataType = dt) {s : Scalar} (hs : s ∈ els) (hr : ¬ s.Reprintable) :
    ∃ e, (els.map Scalar.toValue).mapM (coerceScalar dt) = .error e := by
  obtain ⟨e, he⟩ := coerceScalar_toValue_error hr
  rw [hdt s hs] at he
  exact mapM_eq_error_of_mem (List.mem_map_of_mem hs) ⟨e, he⟩

/-! ## Variants -/

/-- A coercion that succeeds read a tag and gave either an array of scalars or one scalar, each of
the tag's data type and in the form a coercion leaves it. -/
theorem coerce_eq_ok_inv {name : String} {raw : Value} {v : Variant} (h : coerce name raw = .ok v) :
    ∃ tag, TypeTag.ofName? name = some tag ∧
      ((tag.isArray = true ∧ ∃ els, v = .array tag.dataType els ∧
          ∀ s ∈ els, s.dataType = tag.dataType ∧ s.Coerced) ∨
        (tag.isArray = false ∧ ∃ s, v = .scalar s ∧ s.dataType = tag.dataType ∧ s.Coerced)) := by
  cases htag : TypeTag.ofName? name with
  | none =>
    rw [coerce, TypeTag.parse_of_ofName?_none htag] at h
    cases h
  | some tag =>
    refine ⟨tag, rfl, ?_⟩
    rw [coerce_of_ofName? htag] at h
    cases harray : tag.isArray with
    | true =>
      rw [harray, if_pos rfl] at h
      obtain ⟨items, -, h⟩ := bind_eq_ok.mp h
      obtain ⟨els, hels, h⟩ := bind_eq_ok.mp h
      cases h
      refine .inl ⟨rfl, els, rfl, fun s hs => ?_⟩
      obtain ⟨a, -, ha⟩ := mem_of_mapM_eq_ok hels s hs
      exact coerceScalar_coerced ha
    | false =>
      rw [harray, if_neg Bool.false_ne_true] at h
      obtain ⟨s, hs, h⟩ := bind_eq_ok.mp h
      cases h
      exact .inr ⟨rfl, s, rfl, coerceScalar_coerced hs⟩

/-- Under an array tag, the JSON form of an array coerces element by element. -/
theorem coerce_array_toValue {name : String} {tag : TypeTag} (htag : TypeTag.ofName? name = some tag)
    (harray : tag.isArray = true) (dt : DataType) (els : List Scalar) :
    coerce name (Variant.array dt els).toValue =
      ((els.map Scalar.toValue).mapM (coerceScalar tag.dataType) >>= fun els' =>
        .ok (.array tag.dataType els')) := by
  rw [coerce_of_ofName? htag, if_pos harray]
  rfl

/-- Under a scalar tag, the JSON form of a scalar coerces as a scalar. -/
theorem coerce_scalar_toValue {name : String} {tag : TypeTag} (htag : TypeTag.ofName? name = some tag)
    (harray : tag.isArray = false) (s : Scalar) :
    coerce name (Variant.scalar s).toValue =
      (coerceScalar tag.dataType s.toValue >>= fun s' => .ok (.scalar s')) := by
  rw [coerce_of_ofName? htag, harray, if_neg Bool.false_ne_true]
  rfl

/-- Coercion under a type that is not floating point is stable on a reprintable result: its JSON
form coerces again, under the same name, to a value with the same JSON form. -/
theorem coerce_toValue_of_reprintable {name : String} {raw : Value} {v : Variant}
    (hfloat : ∀ tag, TypeTag.ofName? name = some tag → tag.dataType ≠ .float ∧ tag.dataType ≠ .double)
    (h : coerce name raw = .ok v) (hr : v.Reprintable) :
    ∃ w, coerce name v.toValue = .ok w ∧ w.toValue = v.toValue := by
  obtain ⟨tag, htag, ⟨harray, els, rfl, hcoerced⟩ | ⟨harray, s, rfl, hdt, hc⟩⟩ := coerce_eq_ok_inv h
  · -- every element reads back from its JSON form
    obtain ⟨els', hels', hmap⟩ := mapM_coerceScalar_toValue hcoerced (hfloat tag htag) hr
    refine ⟨.array tag.dataType els', by rw [coerce_array_toValue htag harray, hels', ok_bind], ?_⟩
    simp only [Variant.toValue, hmap]
  · obtain ⟨s', hs', hvalue⟩ := coerceScalar_toValue hc hr (hdt ▸ hfloat tag htag)
    rw [hdt] at hs'
    exact ⟨.scalar s', by rw [coerce_scalar_toValue htag harray, hs', ok_bind], hvalue⟩

/-- A coerced value that is not reprintable fails to coerce again from its JSON form, under the
same name. -/
theorem coerce_toValue_error {name : String} {raw : Value} {v : Variant}
    (h : coerce name raw = .ok v) (hr : ¬ v.Reprintable) :
    ∃ e, coerce name v.toValue = .error e := by
  obtain ⟨tag, htag, ⟨harray, els, rfl, hcoerced⟩ | ⟨harray, s, rfl, hdt, -⟩⟩ := coerce_eq_ok_inv h
  · -- an element that does not read back fails, and with it the whole array
    obtain ⟨s, hs, hns⟩ : ∃ s ∈ els, ¬ s.Reprintable := by
      simpa only [Variant.Reprintable, not_forall, exists_prop] using hr
    obtain ⟨e, he⟩ := mapM_coerceScalar_toValue_error (fun s hs => (hcoerced s hs).1) hs hns
    exact ⟨e, by rw [coerce_array_toValue htag harray, he, error_bind]⟩
  · obtain ⟨e, he⟩ := coerceScalar_toValue_error hr
    rw [hdt] at he
    exact ⟨e, by rw [coerce_scalar_toValue htag harray, he, error_bind]⟩

/-- **Coercion is stable where the JSON form reads back.** Take a type name that is not of a
floating-point type and a raw value that coerces under it. Coercing the JSON form of the result
again, under the same name, succeeds with a value of the same JSON form exactly when the result
is reprintable: when it holds no qualified name and no stamp whose year is outside `0..9999`.
When the result is not reprintable, coercing its JSON form fails. -/
theorem coerce_toValue_iff {name : String} {tag : TypeTag} {raw : Value} {v : Variant}
    (htag : TypeTag.ofName? name = some tag) (hfloat : tag.dataType ≠ .float ∧ tag.dataType ≠ .double)
    (h : coerce name raw = .ok v) :
    ((∃ w, coerce name v.toValue = .ok w ∧ w.toValue = v.toValue) ↔ v.Reprintable) ∧
      (¬ v.Reprintable → ∃ e, coerce name v.toValue = .error e) := by
  have hfloat' : ∀ t, TypeTag.ofName? name = some t → t.dataType ≠ .float ∧ t.dataType ≠ .double := by
    intro t ht
    obtain rfl := Option.some.inj (htag.symm.trans ht)
    exact hfloat
  refine ⟨⟨fun ⟨w, hw, _⟩ => ?_, coerce_toValue_of_reprintable hfloat' h⟩, coerce_toValue_error h⟩
  -- a value that is not reprintable fails to coerce again, so one that coerces again is reprintable
  by_contra hr
  obtain ⟨e, he⟩ := coerce_toValue_error h hr
  rw [he] at hw
  cases hw

theorem coerce_booleans_toValue_stable :
    ((∃ w, coerce "Boolean Array" (Variant.array .boolean [.boolean true]).toValue = .ok w ∧
        w.toValue = (Variant.array .boolean [.boolean true]).toValue) ↔
      (Variant.array .boolean [.boolean true]).Reprintable) ∧
    (¬ (Variant.array .boolean [.boolean true]).Reprintable →
      ∃ e, coerce "Boolean Array" (Variant.array .boolean [.boolean true]).toValue = .error e) :=
  @coerce_toValue_iff "Boolean Array" ⟨.boolean, true⟩ (.arr [.bool true]) _ (by decide) (by decide) rfl

/-- A qualified name coerces from its text but prints as an object, which it does not coerce
from. -/
theorem coerce_qualifiedName_toValue_refused :
    ∃ v, coerce "QualifiedName" (.str "a") = .ok v ∧
      ∃ text, coerce "QualifiedName" v.toValue = .error (.invalidValue "QualifiedName" text .expectedText) :=
  ⟨.scalar (.qualifiedName ⟨0, "a"⟩), rfl, _, rfl⟩

end UaFlow.Ua
