import UaFlow.Flow.Node
import UaFlow.Proofs.Ua.Recoerce
import UaFlow.Proofs.Text.Ascii
/-!
# How an item shapes a message

An item node stamps its address as the topic, its configured data type and its name onto a
message, and settles the payload. The payload is coerced when there is something to coerce: the
configured value when the message's payload is empty (`null`, `""` or `[]`) and the item has
one, else the payload itself when it is not empty. It is coerced to the data type the message
asks for, else to the configured one, and left as it is when there is neither. The message is
refused exactly when that coercion fails (`ItemConfig.process_spec`).

Shaping the result again with the same item changes nothing (`ItemConfig.process_process`) when
the message asked for no other data type, the type is not floating point, the coerced value reads
back from its JSON form (`Variant.Reprintable`), and the coercion did not empty a payload while
the item has a configured value: a second pass would take the configured value instead.
-/

namespace UaFlow.Flow

open UaFlow.Json UaFlow.Ua UaFlow.Text

/-! ## One pass -/

/-- A payload is empty exactly when it is `null`, the empty string or the empty array. -/
theorem Message.payloadIsEmpty_iff (m : Message) :
    m.payloadIsEmpty = true ↔ m.payload = .null ∨ m.payload = .str "" ∨ m.payload = .arr [] := by
  unfold Message.payloadIsEmpty
  cases m.payload with
  | null => simp
  | bool b => simp
  | num n => simp
  | str s => simp [String.isEmpty_iff]
  | arr items => simp [List.isEmpty_iff]
  | obj members => simp

/-- The message an item sends on once it has settled the payload: its address as topic, its
configured data type, its name as browse name (none when unnamed), every other field as it
came. -/
def ItemConfig.stamp (c : ItemConfig) (m : Message) (payload : Value) : Message :=
  { m with
    topic := some c.item
    datatype := c.configuredDatatype
    browseName := if c.name.isEmpty then none else some c.name
    payload := payload }

/-- The data type an item coerces a message's payload to: the one the message asks for, else the
configured one. -/
def ItemConfig.target (c : ItemConfig) (m : Message) : Option String :=
  m.datatypeOverride.orElse fun _ => c.configuredDatatype

/-- The raw value an item coerces for a message: its configured value when the payload is empty
and it has one, the payload when that is not empty, and nothing otherwise. -/
def ItemConfig.rawPayload? (c : ItemConfig) (m : Message) : Option Value :=
  if c.hasStaticValue && m.payloadIsEmpty then some (.str c.value)
  else if !m.payloadIsEmpty then some m.payload
  else none

/-- One pass in normal form: the raw value, if there is one, is coerced and the result
stamped. -/
theorem ItemConfig.process_eq (c : ItemConfig) (m : Message) :
    c.process m = match c.rawPayload? m with
      | some raw => c.stamp m <$> coercePayload (c.target m) raw
      | none => .ok (c.stamp m m.payload) := by
  unfold ItemConfig.process ItemConfig.rawPayload? ItemConfig.target
  dsimp only
  by_cases hstatic : (c.hasStaticValue && m.payloadIsEmpty) = true
  · rw [if_pos hstatic, if_pos hstatic]
    dsimp only
    cases coercePayload (m.datatypeOverride.orElse fun _ => c.configuredDatatype) (.str c.value) <;> rfl
  · rw [if_neg hstatic, if_neg hstatic]
    by_cases hpayload : (!m.payloadIsEmpty) = true
    · rw [if_pos hpayload, if_pos hpayload]
      dsimp only
      cases coercePayload (m.datatypeOverride.orElse fun _ => c.configuredDatatype) m.payload <;> rfl
    · rw [if_neg hpayload, if_neg hpayload]
      rfl

/-- **How an item shapes a message.** It fails exactly when it has a raw value to coerce, a data
type to coerce it to, and the coercion fails, with that error. Otherwise it stamps the message,
with the raw value coerced to the data type and written as JSON, the raw value itself when there
is no data type, and the payload unchanged when there is nothing to coerce. -/
theorem ItemConfig.process_spec (c : ItemConfig) (m : Message) :
    (∀ e, c.process m = .error e ↔
        ∃ raw d, c.rawPayload? m = some raw ∧ c.target m = some d ∧ coerce d raw = .error e) ∧
    (∀ m', c.process m = .ok m' ↔ ∃ p, m' = c.stamp m p ∧
        match c.rawPayload? m, c.target m with
        | none, _ => p = m.payload
        | some raw, none => p = raw
        | some raw, some d => ∃ v, coerce d raw = .ok v ∧ p = v.toValue) := by
  rw [ItemConfig.process_eq]
  cases c.rawPayload? m with
  | none =>
    refine ⟨fun e => ?_, fun m' => ?_⟩
    · simp
    · constructor
      · intro h
        exact ⟨m.payload, (Except.ok.inj h).symm, rfl⟩
      · rintro ⟨p, rfl, rfl⟩
        rfl
  | some raw =>
    cases c.target m with
    | none =>
      refine ⟨fun e => ?_, fun m' => ?_⟩
      · simp [coercePayload]
      · constructor
        · intro h
          exact ⟨raw, (Except.ok.inj h).symm, rfl⟩
        · rintro ⟨p, rfl, rfl⟩
          rfl
    | some d =>
      -- the coercion decides: its error is the item's, its value the payload's JSON
      simp only [coercePayload]
      cases hc : coerce d raw with
      | error e' =>
        refine ⟨fun e => ?_, fun m' => ?_⟩
        · simp [hc]
        · simp
      | ok v =>
        refine ⟨fun e => ?_, fun m' => ?_⟩
        · simp [hc]
        · simp [eq_comm]

/-! ## A second pass -/

@[simp] theorem ItemConfig.stamp_stamp (c : ItemConfig) (m : Message) (p q : Value) :
    c.stamp (c.stamp m p) q = c.stamp m q := rfl

@[simp] theorem ItemConfig.payload_stamp (c : ItemConfig) (m : Message) (p : Value) :
    (c.stamp m p).payload = p := rfl

theorem ItemConfig.datatype_stamp (c : ItemConfig) (m : Message) (p : Value) :
    (c.stamp m p).datatype = c.configuredDatatype := by
  unfold ItemConfig.stamp
  dsimp only

/-- A stamped message asks for the item's configured data type, which is already trimmed. -/
theorem ItemConfig.datatypeOverride_stamp (c : ItemConfig) (m : Message) (p : Value) :
    (c.stamp m p).datatypeOverride = c.configuredDatatype := by
  unfold Message.datatypeOverride
  rw [datatype_stamp]
  unfold ItemConfig.configuredDatatype
  by_cases hblank : (trim c.datatype).isEmpty = true
  · rw [if_pos hblank]
  · rw [if_neg hblank]
    dsimp only
    rw [trim_trim, if_neg hblank]

theorem ItemConfig.target_stamp (c : ItemConfig) (m : Message) (p : Value) :
    c.target (c.stamp m p) = c.configuredDatatype := by
  unfold ItemConfig.target
  rw [datatypeOverride_stamp]
  cases c.configuredDatatype <;> rfl

/-- A payload coerced under a data type that is not floating point coerces to itself again, when
the value coerced is reprintable; with no data type it is kept as it is. -/
theorem coercePayload_stable {d : Option String} {raw p : Value}
    (hfloat : ∀ name tag, d = some name → TypeTag.ofName? name = some tag →
      tag.dataType ≠ .float ∧ tag.dataType ≠ .double)
    (hrep : ∀ name v, d = some name → coerce name raw = .ok v → v.Reprintable)
    (h : coercePayload d raw = .ok p) : coercePayload d p = .ok p := by
  cases d with
  | none =>
    cases h
    rfl
  | some name =>
    obtain ⟨v, hv, rfl⟩ := map_eq_ok.mp h
    obtain ⟨w, hw, hwv⟩ := coerce_toValue_of_reprintable (hfloat name · rfl) hv (hrep name v rfl hv)
    show Variant.toValue <$> coerce name v.toValue = _
    rw [hw, map_ok, hwv]

/-- A stamped message whose raw value, if it has one, the item coerces back to its payload goes
through the item unchanged. -/
theorem ItemConfig.process_stamp {c : ItemConfig} {m : Message} {p : Value}
    (hkeep : ∀ raw, c.rawPayload? (c.stamp m p) = some raw →
      coercePayload c.configuredDatatype raw = .ok p) :
    c.process (c.stamp m p) = .ok (c.stamp m p) := by
  rw [ItemConfig.process_eq, target_stamp]
  cases hraw : c.rawPayload? (c.stamp m p) with
  | none => rfl
  | some raw =>
    dsimp only
    rw [hkeep raw hraw]
    rfl

/-- **Shaping is idempotent where the coerced value reads back.** Take an item whose configured
data type, if any, is not floating point, and a message that asks for no data type or for the
configured one. When the item shapes the message, and the value it coerced is reprintable and it
did not empty a payload while the item has a configured value, shaping the result again gives
it back. -/
theorem ItemConfig.process_process {c : ItemConfig} {m m₁ : Message}
    (hfloat : ∀ name tag, c.configuredDatatype = some name → TypeTag.ofName? name = some tag →
      tag.dataType ≠ .float ∧ tag.dataType ≠ .double)
    (hask : m.datatypeOverride = none ∨ m.datatypeOverride = c.configuredDatatype)
    (hrep : ∀ raw name v, c.rawPayload? m = some raw → c.target m = some name →
      coerce name raw = .ok v → v.Reprintable)
    (hfill : c.hasStaticValue = true → m.payloadIsEmpty = false → m₁.payloadIsEmpty = false)
    (h : c.process m = .ok m₁) : c.process m₁ = .ok m₁ := by
  -- the first pass coerced to the configured data type, as the second one does
  have htarget : c.target m = c.configuredDatatype := by
    unfold ItemConfig.target
    rw [Option.orElse_eq_or]
    rcases hask with hnone | hsame
    · rw [hnone, Option.none_or]
    · rw [hsame, Option.or_self]
  rw [ItemConfig.process_eq] at h
  cases hraw : c.rawPayload? m with
  | none =>
    -- nothing was coerced, and a second pass finds nothing to coerce either
    rw [hraw] at h
    cases h
    apply process_stamp
    intro raw hraw'
    have hsame : c.rawPayload? (c.stamp m m.payload) = c.rawPayload? m := rfl
    rw [hsame, hraw] at hraw'
    cases hraw'
  | some raw =>
    rw [hraw, htarget] at h
    obtain ⟨p, hp, rfl⟩ := map_eq_ok.mp h
    have hrep' : ∀ name v, c.configuredDatatype = some name → coerce name raw = .ok v → v.Reprintable :=
      fun name v hname => hrep raw name v hraw (htarget.trans hname)
    apply process_stamp
    intro raw' hraw'
    unfold ItemConfig.rawPayload? at hraw' hraw
    by_cases hstatic' : (c.hasStaticValue && (c.stamp m p).payloadIsEmpty) = true
    · -- the second pass takes the configured value, so the first one took it too
      rw [if_pos hstatic'] at hraw'
      cases hraw'
      rw [Bool.and_eq_true] at hstatic'
      by_cases hstatic : (c.hasStaticValue && m.payloadIsEmpty) = true
      · rw [if_pos hstatic] at hraw
        cases hraw
        exact hp
      · have hfull : m.payloadIsEmpty = false := by
          simpa [hstatic'.1] using hstatic
        rw [hfill hstatic'.1 hfull] at hstatic'
        cases hstatic'.2
    · -- the second pass coerces the payload the first one wrote
      rw [if_neg hstatic'] at hraw'
      split at hraw'
      · cases hraw'
        exact coercePayload_stable hfloat hrep' hp
      · cases hraw'

/-- An item of 32-bit integers shapes the text `42` to the number `42`, and leaves the result as it
is. -/
theorem ItemConfig.process_process_level :
    let c : ItemConfig := ⟨"ns=2;i=4", "Int32", "7", "Level"⟩
    let m : Message := { msgId := "a", payload := .str "42" }
    c.process m = .ok (c.stamp m (.num ⟨"42"⟩)) ∧
      c.process (c.stamp m (.num ⟨"42"⟩)) = .ok (c.stamp m (.num ⟨"42"⟩)) := by
  intro c m
  have hraw : c.rawPayload? m = some (.str "42") := rfl
  have htarget : c.target m = some "Int32" := by decide
  have hcoerce : coerce "Int32" (.str "42") = .ok (.scalar (.integer .int32 42)) := rfl
  have hfirst : c.process m = .ok (c.stamp m (.num ⟨"42"⟩)) := by
    rw [process_eq, hraw, htarget]
    simp only [coercePayload, hcoerce, map_ok]
    rfl
  refine ⟨hfirst, ItemConfig.process_process ?_ (.inl rfl) ?_ ?_ hfirst⟩
  · intro name tag hname htag
    have hname' : name = "Int32" := by
      have : c.configuredDatatype = some "Int32" := by decide
      rw [this] at hname
      exact (Option.some.inj hname).symm
    subst hname'
    have htag' : TypeTag.ofName? "Int32" = some ⟨.integer .int32, false⟩ := by decide
    rw [htag'] at htag
    cases htag
    decide
  · intro raw name v hraw' hname hv
    rw [hraw] at hraw'
    cases hraw'
    rw [htarget] at hname
    cases hname
    rw [hcoerce] at hv
    cases hv
    trivial
  · intro _ _
    rfl

/-- A blank text under `ByteString` decodes to no bytes, written as the empty text; the item's
configured value then fills that empty payload on a second pass. -/
theorem ItemConfig.process_blank_bytes_refilled :
    let c : ItemConfig := ⟨"ns=2;i=4", "ByteString", "AQID", "Level"⟩
    let m : Message := { msgId := "a", payload := .str " " }
    m.datatypeOverride = none ∧ c.process m = .ok (c.stamp m (.str "")) ∧
      c.process (c.stamp m (.str "")) ≠ .ok (c.stamp m (.str "")) := by
  intro c m
  have htarget : ∀ p, c.target (c.stamp m p) = some "ByteString" := fun p => by
    rw [target_stamp]
    decide
  have hfirst : c.process m = .ok (c.stamp m (.str "")) := by
    have hraw : c.rawPayload? m = some (.str " ") := rfl
    have hcoerce : coerce "ByteString" (.str " ") = .ok (.scalar (.byteString [])) := by
      have htrim : trim " " = Codec.encode [] := by decide
      have hdecode : Codec.decode (Codec.encode []) = .ok [] := Codec.decode_encode (fun _ hb => by cases hb)
      rw [coerce_of_ofName? (show TypeTag.ofName? "ByteString" = some ⟨.byteString, false⟩ by decide)]
      simp only [coerceScalar, htrim, hdecode, if_neg Bool.false_ne_true]
      rfl
    rw [process_eq, hraw, show c.target m = some "ByteString" by decide]
    simp only [coercePayload, hcoerce, map_ok]
    rfl
  have hsecond : c.process (c.stamp m (.str "")) = .ok (c.stamp m (.str "AQID")) := by
    have hraw : c.rawPayload? (c.stamp m (.str "")) = some (.str "AQID") := rfl
    have hcoerce : coerce "ByteString" (.str "AQID") = .ok (.scalar (.byteString [1, 2, 3])) := by
      have htrim : trim "AQID" = Codec.encode [1, 2, 3] := by decide
      have hbytes : Codec.AreBytes [1, 2, 3] := fun b hb => by simp at hb; omega
      rw [coerce_of_ofName? (show TypeTag.ofName? "ByteString" = some ⟨.byteString, false⟩ by decide)]
      simp only [coerceScalar, htrim, Codec.decode_encode hbytes, if_neg Bool.false_ne_true]
      rfl
    rw [process_eq, hraw, htarget]
    simp only [coercePayload, hcoerce, map_ok, stamp_stamp]
    rfl
  refine ⟨rfl, hfirst, ?_⟩
  rw [hsecond]
  intro h
  have hpayload := congrArg Message.payload (Except.ok.inj h)
  simp only [ItemConfig.payload_stamp, Value.str.injEq] at hpayload
  exact absurd hpayload (by decide)

end UaFlow.Flow
