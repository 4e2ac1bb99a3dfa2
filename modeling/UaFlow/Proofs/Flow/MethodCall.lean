import Mathlib.Data.List.Forall2
import UaFlow.Flow.Node
import UaFlow.Proofs.Except
/-!
# Method calls

A method node addresses a call: it sets the topic and the object id to the configured object and
the method id to the configured method. Input arguments the message already carries, an empty
list included, are sent as they are. Otherwise the node coerces its configured slots: of the
three (type, value) slots, in order, those whose trimmed type is not blank, each value coerced to
its trimmed type. Main statement (`MethodConfig.process_call_spec`): the node sends the arguments
so coerced when every slot coerces, and fails with the error of the first slot that does not.
-/

namespace UaFlow.Flow

open UaFlow.Json UaFlow.Ua UaFlow.Text

/-- The configured arguments are the slots' values coerced to their types, one for one. -/
theorem MethodConfig.inputArguments_eq_ok {c : MethodConfig} {args : List MethodArgument}
    (h : List.Forall₂ (fun slot arg => ∃ x, coerceText slot.1 slot.2 = .ok x ∧
      arg = ⟨slot.1, x.toValue⟩) c.arguments args) :
    c.inputArguments = .ok args := by
  unfold MethodConfig.inputArguments
  generalize c.arguments = slots at *
  apply mapM_eq_ok_of_forall₂
  refine h.imp ?_
  rintro ⟨t, v⟩ arg ⟨x, hx, rfl⟩
  dsimp only at hx ⊢
  rw [hx]
  rfl

/-- The configured arguments fail with the error of the first slot whose value does not coerce. -/
theorem MethodConfig.inputArguments_eq_error {c : MethodConfig} {i : Nat} {e : CoercionError}
    (hi : i < c.arguments.length)
    (hbefore : ∀ j (hj : j < c.arguments.length), j < i →
      ∃ x, coerceText c.arguments[j].1 c.arguments[j].2 = .ok x)
    (hfail : coerceText c.arguments[i].1 c.arguments[i].2 = .error e) :
    c.inputArguments = .error e := by
  unfold MethodConfig.inputArguments
  -- from here on the slots are any list
  generalize c.arguments = slots at *
  apply mapM_eq_error_of_first hi
  · intro j hj
    obtain ⟨x, hx⟩ := hbefore j (Nat.lt_trans hj hi) hj
    generalize slots[j] = slot at hx ⊢
    obtain ⟨t, v⟩ := slot
    dsimp only at hx ⊢
    rw [hx]
    exact ⟨_, rfl⟩
  · generalize slots[i] = slot at hfail ⊢
    obtain ⟨t, v⟩ := slot
    dsimp only at hfail ⊢
    rw [hfail]
    rfl

/-- **A method node addresses a call.** Arguments the message carries, an empty list included,
are kept. Otherwise the slots whose trimmed type is not blank, in order, give the arguments: the
node sends each slot's type with its value coerced to that type when every slot coerces, and fails
with the error of the first slot that does not. Topic and object id become the configured object,
the method id the configured method, and nothing else changes. -/
theorem MethodConfig.process_call_spec (c : MethodConfig) (m : Message) :
    let slots := ([(c.arg0type, c.arg0value), (c.arg1type, c.arg1value),
      (c.arg2type, c.arg2value)].map fun slot => (trim slot.1, slot.2)).filter
        fun slot => !slot.1.isEmpty
    (∀ args, m.inputArguments = some args → c.process m = .ok { m with
        topic := some c.objectId
        objectId := some c.objectId
        methodId := some c.methodId }) ∧
    (m.inputArguments = none →
      (∀ args, List.Forall₂ (fun slot arg => ∃ x, coerceText slot.1 slot.2 = .ok x ∧
          arg = ⟨slot.1, x.toValue⟩) slots args →
        c.process m = .ok { m with
          inputArguments := some args
          topic := some c.objectId
          objectId := some c.objectId
          methodId := some c.methodId }) ∧
      (∀ i (hi : i < slots.length) e,
        (∀ j (hj : j < slots.length), j < i → ∃ x, coerceText slots[j].1 slots[j].2 = .ok x) →
        coerceText slots[i].1 slots[i].2 = .error e → c.process m = .error e)) := by
  intro slots
  refine ⟨fun args hargs => ?_, fun hnone => ⟨fun args hargs => ?_, fun i hi e hbefore hfail => ?_⟩⟩
  · -- the arguments the message carries are the ones sent
    simp only [MethodConfig.process, hargs, pure, Except.pure, ok_bind]
  · simp only [MethodConfig.process, hnone, MethodConfig.inputArguments_eq_ok hargs, ok_bind]
    rfl
  · simp only [MethodConfig.process, hnone, MethodConfig.inputArguments_eq_error hi hbefore hfail,
      error_bind]

/-- A method node with a text in its first slot and an integer in its last, the middle one
blank, sends both arguments in slot order, each under its trimmed type. -/
theorem MethodConfig.process_call_spec_two_slots :
    (⟨"ns=2;i=12", "ns=2;i=13", "Call", "String", "on", " ", "", " Int32 ", "-12"⟩ :
        MethodConfig).process (Message.empty "m") =
      .ok { Message.empty "m" with
        inputArguments := some [⟨"String", .str "on"⟩, ⟨"Int32", .num ⟨"-12"⟩⟩]
        topic := some "ns=2;i=12"
        objectId := some "ns=2;i=12"
        methodId := some "ns=2;i=13" } :=
  ((MethodConfig.process_call_spec _ _).2 rfl).1 _
    (.cons ⟨.scalar (.string "on"), rfl, rfl⟩ (.cons ⟨.scalar (.integer .int32 (-12)), rfl, rfl⟩ .nil))

end UaFlow.Flow
