import Mathlib.Data.List.Defs
/-!
# Steps of a computation that can fail

The readers of the library are written in the `Except` monad. A step that has succeeded passes its
value on, and one that has failed stops the rest; these two facts let `simp` run a reader along a
text whose every step is known. Mapping a step over a list succeeds exactly when it succeeds on
every element, and fails as soon as it fails on one, with the error of the first element it fails
on.
-/

namespace UaFlow

variable {ε α β : Type}

@[simp] theorem ok_bind (a : α) (f : α → Except ε β) : (Except.ok a >>= f) = f a := rfl

@[simp] theorem error_bind (e : ε) (f : α → Except ε β) : (Except.error e >>= f) = .error e := rfl

@[simp] theorem map_ok (f : α → β) (a : α) : (f <$> (Except.ok a : Except ε α)) = .ok (f a) := rfl

@[simp] theorem map_error (f : α → β) (e : ε) : (f <$> (Except.error e : Except ε α)) = .error e := rfl

theorem bind_eq_ok {x : Except ε α} {f : α → Except ε β} {b : β} :
    (x >>= f) = .ok b ↔ ∃ a, x = .ok a ∧ f a = .ok b := by
  cases x with
  | error e => simp
  | ok a => simp

theorem map_eq_ok {x : Except ε α} {f : α → β} {b : β} :
    (f <$> x) = .ok b ↔ ∃ a, x = .ok a ∧ f a = b := by
  cases x with
  | error e => simp
  | ok a => simp

/-- A result wrapped as present, with its error relabelled, succeeds exactly when the result does. -/
theorem mapError_map_some_eq_ok {ε' : Type} {f : ε → ε'} {x : Except ε α} {o : Option α} :
    (x.map some).mapError f = .ok o ↔ ∃ a, x = .ok a ∧ o = some a := by
  cases x with
  | error e =>
    show Except.error (f e) = .ok o ↔ _
    simp
  | ok a =>
    show Except.ok (some a) = .ok o ↔ _
    simp [eq_comm]

/-! ## Mapping over a list -/

/-- Each result of a mapping that succeeded comes from an element. -/
theorem mem_of_mapM_eq_ok {f : α → Except ε β} {l : List α} {l' : List β} (h : l.mapM f = .ok l') :
    ∀ b ∈ l', ∃ a ∈ l, f a = .ok b := by
  induction l generalizing l' with
  | nil =>
    cases h
    intro b hb
    cases hb
  | cons a l ih =>
    rw [List.mapM_cons] at h
    obtain ⟨b, hb, h⟩ := bind_eq_ok.mp h
    obtain ⟨bs, hbs, h⟩ := bind_eq_ok.mp h
    cases h
    intro c hc
    rcases List.mem_cons.mp hc with rfl | hc
    · exact ⟨a, List.mem_cons_self, hb⟩
    · obtain ⟨x, hx, hfx⟩ := ih hbs c hc
      exact ⟨x, List.mem_cons_of_mem a hx, hfx⟩

/-- A mapping succeeds when it succeeds on every element, with results that agree with the
elements under any two views `g` and `g'` that agree on each. -/
theorem mapM_eq_ok_of_forall {γ : Type} {f : α → Except ε β} {g : β → γ} {g' : α → γ} {l : List α}
    (h : ∀ a ∈ l, ∃ b, f a = .ok b ∧ g b = g' a) : ∃ l', l.mapM f = .ok l' ∧ l'.map g = l.map g' := by
  induction l with
  | nil => exact ⟨[], rfl, rfl⟩
  | cons a l ih =>
    obtain ⟨b, hb, hgb⟩ := h a List.mem_cons_self
    obtain ⟨bs, hbs, hgbs⟩ := ih (fun x hx => h x (List.mem_cons_of_mem a hx))
    refine ⟨b :: bs, ?_, ?_⟩
    · rw [List.mapM_cons, hb, ok_bind, hbs, ok_bind]
      rfl
    · rw [List.map_cons, List.map_cons, hgb, hgbs]

/-- A mapping fails when it fails on some element. -/
theorem mapM_eq_error_of_mem {f : α → Except ε β} {l : List α} {a : α} (ha : a ∈ l)
    (h : ∃ e, f a = .error e) : ∃ e, l.mapM f = .error e := by
  induction l with
  | nil => cases ha
  | cons x l ih =>
    rw [List.mapM_cons]
    cases hx : f x with
    | error e => exact ⟨e, rfl⟩
    | ok b =>
      rcases List.mem_cons.mp ha with rfl | ha
      · obtain ⟨e, he⟩ := h
        rw [he] at hx
        cases hx
      · obtain ⟨e, he⟩ := ih ha
        rw [ok_bind, he, error_bind]
        exact ⟨e, rfl⟩

/-- A mapping succeeds with the results the step gives on the elements, one for one. -/
theorem mapM_eq_ok_of_forall₂ {f : α → Except ε β} {l : List α} {l' : List β}
    (h : List.Forall₂ (fun a b => f a = .ok b) l l') : l.mapM f = .ok l' := by
  induction h with
  | nil => rfl
  | cons hab _ ih => rw [List.mapM_cons, hab, ok_bind, ih, ok_bind]; rfl

/-- A mapping fails with the error of the first element on which the step fails. -/
theorem mapM_eq_error_of_first {f : α → Except ε β} {l : List α} {i : Nat} {e : ε}
    (hi : i < l.length) (hbefore : ∀ j (hj : j < i), ∃ b, f l[j] = .ok b)
    (hfail : f l[i] = .error e) : l.mapM f = .error e := by
  induction l generalizing i with
  | nil => cases hi
  | cons a l ih =>
    rw [List.mapM_cons]
    cases i with
    | zero =>
      rw [List.getElem_cons_zero] at hfail
      rw [hfail, error_bind]
    | succ i =>
      -- the head succeeds, and the first failure is the tail's
      obtain ⟨b, hb⟩ := hbefore 0 (Nat.zero_lt_succ i)
      have htail : l.mapM f = .error e :=
        ih (Nat.lt_of_succ_lt_succ hi) (fun j hj => hbefore (j + 1) (Nat.succ_lt_succ hj)) hfail
      rw [List.getElem_cons_zero] at hb
      rw [hb, ok_bind, htail, error_bind]

/-! ## Folding a step that can fail -/

/-- What every successful step keeps, a successful fold keeps. -/
theorem foldlM_invariant {f : β → α → Except ε β} (P : β → Prop)
    (hstep : ∀ b a b', f b a = .ok b' → P b → P b') :
    ∀ (l : List α) (b b' : β), l.foldlM f b = .ok b' → P b → P b'
  | [], b, b', h, hb => by
    cases h
    exact hb
  | a :: l, b, b', h, hb => by
    rw [List.foldlM_cons] at h
    obtain ⟨c, hc, hrest⟩ := bind_eq_ok.mp h
    exact foldlM_invariant P hstep l c b' hrest (hstep b a c hc hb)

end UaFlow
