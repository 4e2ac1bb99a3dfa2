import UaFlow.Ua.Coerce
import UaFlow.Proofs.Except
import UaFlow.Proofs.Text.Split
import UaFlow.Proofs.Ua.Recoerce
/-!
# Coercing to an array type

An array type coerces a raw value element by element. `ArrayItems` says which raw values the
elements come from: the items of a JSON array; for a text that starts with `[` after its leading
blanks, the items of the JSON array it holds, or the failure to read one, named by the type name
as given and the whole text; for any other text, its comma-separated parts, each trimmed (so the
empty text gives one empty part); and any other value alone.

Main statement (`coerce_arrayType`): under a name of an array type, coercion gives the array of
the items' coercions, in order, when each item coerces, and otherwise the error of the first item
that does not; every array it gives holds scalars of the element type, and its JSON form is the
list of theirs.
-/

namespace UaFlow.Ua

open UaFlow.Json UaFlow.Text

/-! ## The items of a raw value -/

theorem mismatchFound_ne_ok {α : Type} {len : Nat} {expected : String} {c : Cursor} {r : α} :
    mismatchFound len expected c ≠ .ok r := by
  intro h
  obtain ⟨p, -, h⟩ := bind_eq_ok.mp h
  cases h

/-- A list shape reads nothing but an array. -/
theorem readShape_list_eq_ok {len fuel depth : Nat} {item : Shape} {c c' : Cursor} {v : Option Value}
    (h : readShape len fuel depth (.list item) c = .ok (v, c')) : ∃ items, v = some (.arr items) := by
  cases fuel with
  | zero => simp [readShape, failAt] at h
  | succ fuel =>
    simp only [readShape] at h
    split at h
    · cases h
    · split at h
      · cases h
      · obtain ⟨⟨items, c₁⟩, -, h⟩ := bind_eq_ok.mp h
        obtain ⟨c₂, -, h⟩ := bind_eq_ok.mp h
        cases h
        exact ⟨items, rfl⟩
    · exact absurd h mismatchFound_ne_ok

/-- A whole text read into a list shape is an array. -/
theorem readText_list_eq_ok {item : Shape} {s : String} {v : Option Value}
    (h : readText (.list item) s = .ok v) : ∃ items, v = some (.arr items) := by
  unfold readText at h
  dsimp only at h
  split at h
  · cases h
  · rename_i v' c hread
    split at h
    · cases h
      exact readShape_list_eq_ok hread
    · cases h

/-- Splitting a text at commas and trimming the parts, as the text library and as the list
library do it. -/
theorem splitOn_comma_map {α : Type} (s : String) (f : String → α) :
    (s.splitOn ",").map f = (s.toList.splitOn ',').map fun part => f (String.ofList part) := by
  rw [show "," = String.singleton ',' from rfl, splitOn_singleton, List.map_map]
  rfl

/-- The raw values the elements of an array type named `name` are coerced from, or why there are
none. -/
inductive ArrayItems (name : String) : Value → Except CoercionError (List Value) → Prop
  /-- A JSON array gives its items. -/
  | list (items : List Value) : ArrayItems name (.arr items) (.ok items)
  /-- A text that starts with `[` after its blanks gives the items of the JSON array it holds, -/
  | listText {s : String} {items : List Value} :
      (trimStart s).startsWith "[" = true → readText (.list .any) s = .ok (some (.arr items)) →
      ArrayItems name (.str s) (.ok items)
  /-- and fails, naming the type and the whole text, when it holds none. -/
  | listTextFails {s : String} {e : DecodeError} :
      (trimStart s).startsWith "[" = true → readText (.list .any) s = .error e →
      ArrayItems name (.str s) (.error (.invalidValue name s (.arrayText e)))
  /-- Any other text gives its comma-separated parts, each trimmed. -/
  | parts {s : String} :
      (trimStart s).startsWith "[" = false →
      ArrayItems name (.str s)
        (.ok ((s.toList.splitOn ',').map fun part => .str (trim (String.ofList part))))
  /-- Any other value is the only item. -/
  | single {raw : Value} : (∀ items, raw ≠ .arr items) → (∀ s, raw ≠ .str s) →
      ArrayItems name raw (.ok [raw])

theorem arrayItems_of_arrayItems {name : String} {raw : Value} {r : Except CoercionError (List Value)}
    (h : ArrayItems name raw r) : arrayItems name raw = r := by
  cases h with
  | list items => rfl
  | listText hstart hread => simp only [arrayItems, hstart, hread, ite_true]
  | listTextFails hstart hread => simp only [arrayItems, hstart, hread, ite_true]
  | parts hstart =>
    simp only [arrayItems, hstart, Bool.false_eq_true, ite_false, splitOn_comma_map]
  | single harr hstr =>
    cases raw with
    | arr items => exact absurd rfl (harr items)
    | str s => exact absurd rfl (hstr s)
    | _ => rfl

theorem arrayItems_arrayItems (name : String) (raw : Value) :
    ArrayItems name raw (arrayItems name raw) := by
  -- a rule that applies gives the items `arrayItems` finds
  suffices h : ∃ r, ArrayItems name raw r by
    obtain ⟨r, hr⟩ := h
    rwa [arrayItems_of_arrayItems hr]
  cases raw with
  | arr items => exact ⟨_, .list items⟩
  | str s =>
    cases hstart : (trimStart s).startsWith "[" with
    | true =>
      cases hread : readText (.list .any) s with
      | error e => exact ⟨_, .listTextFails hstart hread⟩
      | ok v =>
        -- a list shape reads only an array
        obtain ⟨items, rfl⟩ := readText_list_eq_ok hread
        exact ⟨_, .listText hstart hread⟩
    | false => exact ⟨_, .parts hstart⟩
  | null | bool _ | num _ | obj _ =>
    exact ⟨_, .single (fun _ => Value.noConfusion) (fun _ => Value.noConfusion)⟩

/-- The items of a raw value are the ones `ArrayItems` gives. -/
theorem arrayItems_eq_iff {name : String} {raw : Value} {r : Except CoercionError (List Value)} :
    arrayItems name raw = r ↔ ArrayItems name raw r :=
  ⟨fun h => h ▸ arrayItems_arrayItems name raw, arrayItems_of_arrayItems⟩

/-! ## Coercing the items -/

/-- Under the name of an array type, coercion finds the items, then coerces each. -/
theorem coerce_of_isArray {name : String} {t : DataType} (h : TypeTag.ofName? name = some ⟨t, true⟩)
    (raw : Value) :
    coerce name raw = (arrayItems name raw >>= fun items => items.mapM (coerceScalar t)) >>=
      fun elements => pure (.array t elements) := by
  rw [coerce_of_ofName? h, if_pos rfl]
  exact (bind_assoc _ _ _).symm

/-- **Coercing to an array type.** Under the name of an array type, a raw value has items
(`ArrayItems`). When finding them fails, coercion fails the same way. When every item coerces to
the element type, coercion gives the array of their coercions, in order; otherwise it fails with
the error of the first item that does not. Every array it gives is of the element type, holds
scalars of that type, and has as JSON form the list of theirs. -/
theorem coerce_arrayType {name : String} {elementType : DataType}
    (hname : TypeTag.ofName? name = some ⟨elementType, true⟩) (raw : Value) :
    (∃ r, ArrayItems name raw r) ∧
    (∀ e, ArrayItems name raw (.error e) → coerce name raw = .error e) ∧
    (∀ items, ArrayItems name raw (.ok items) →
      (∀ elements, List.Forall₂ (fun item s => coerceScalar elementType item = .ok s) items elements →
        coerce name raw = .ok (.array elementType elements)) ∧
      (∀ i (hi : i < items.length) e,
        (∀ j (hj : j < i), ∃ s, coerceScalar elementType items[j] = .ok s) →
        coerceScalar elementType items[i] = .error e → coerce name raw = .error e)) ∧
    (∀ v, coerce name raw = .ok v → v.dataType = elementType ∧
      ∃ elements, v = .array elementType elements ∧ (∀ s ∈ elements, s.dataType = elementType) ∧
        v.toValue = .arr (elements.map fun s => (Variant.scalar s).toValue)) := by
  have hcoerce := coerce_of_isArray hname raw
  refine ⟨⟨_, arrayItems_arrayItems name raw⟩, fun e he => ?_, fun items hitems => ?_, fun v hv => ?_⟩
  · rw [hcoerce, arrayItems_of_arrayItems he, error_bind, error_bind]
  · rw [hcoerce, arrayItems_of_arrayItems hitems, ok_bind]
    refine ⟨fun elements helements => ?_, fun i hi e hbefore hfail => ?_⟩
    · rw [mapM_eq_ok_of_forall₂ helements, ok_bind]
      rfl
    · rw [mapM_eq_error_of_first hi hbefore hfail, error_bind]
  · -- a successful coercion coerced every item, each to a scalar of the element type
    rw [hcoerce] at hv
    obtain ⟨elements, helements, hv⟩ := bind_eq_ok.mp hv
    obtain ⟨items, -, helements⟩ := bind_eq_ok.mp helements
    cases hv
    refine ⟨rfl, elements, rfl, fun s hs => ?_, rfl⟩
    obtain ⟨item, -, hitem⟩ := mem_of_mapM_eq_ok helements s hs
    exact (coerceScalar_coerced hitem).1

/-- `Int16 Array` over the text `1, 2, 3` gives the three integers in order. -/
theorem coerce_arrayType_int16_parts :
    TypeTag.ofName? "Int16 Array" = some ⟨.integer .int16, true⟩ ∧
      coerce "Int16 Array" (.str "1, 2, 3") =
        .ok (.array (.integer .int16) [.integer .int16 1, .integer .int16 2, .integer .int16 3]) := by
  have hname : TypeTag.ofName? "Int16 Array" = some ⟨.integer .int16, true⟩ := by decide
  refine ⟨hname, ((coerce_arrayType hname (.str "1, 2, 3")).2.2.1 _ (.parts (by decide +kernel))).1 _ ?_⟩
  exact .cons rfl (.cons rfl (.cons rfl .nil))

end UaFlow.Ua
