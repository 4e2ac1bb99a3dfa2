/-!
# Breadth-first order

A forest is given by its roots and a function that gives the children of each node, in order. It
may be infinite, since a node may be its own descendant. Its nodes in breadth-first order are its
levels one after another: the roots, then the children of the roots, and so on, each level left to
right. The first `k` nodes in that order lie in the first `k` levels, because a level that is empty
leaves every deeper level empty; `breadthFirst` takes them from there.

The main statement, `breadthFirst_cons`, is the rule a first-in first-out worklist follows: the
first `k + 1` nodes of the forest with roots `a :: q` are `a`, then the first `k` nodes of the forest
with roots `q ++ children a`.
-/

namespace UaFlow.Flow

variable {α : Type} (children : α → List α)

/-- The nodes at depth `j` of the forest with roots `roots`, left to right. -/
def depthLevel (roots : List α) : Nat → List α
  | 0 => roots
  | j + 1 => (depthLevel roots j).flatMap children

/-- The levels above depth `j`, one after another. -/
def levelsAbove (roots : List α) : Nat → List α
  | 0 => []
  | j + 1 => levelsAbove roots j ++ depthLevel children roots j

/-- The first `k` nodes of the forest in breadth-first order. -/
def breadthFirst (roots : List α) (k : Nat) : List α :=
  (levelsAbove children roots k).take k

variable {children}

theorem depthLevel_succ (roots : List α) (j : Nat) :
    depthLevel children roots (j + 1) = (depthLevel children roots j).flatMap children := rfl

theorem levelsAbove_succ (roots : List α) (j : Nat) :
    levelsAbove children roots (j + 1) =
      levelsAbove children roots j ++ depthLevel children roots j := rfl

theorem depthLevel_append (r s : List α) (j : Nat) :
    depthLevel children (r ++ s) j = depthLevel children r j ++ depthLevel children s j := by
  induction j with
  | zero => rfl
  | succ j ih => simp [depthLevel_succ, ih]

theorem depthLevel_nil (j : Nat) : depthLevel children [] j = [] := by
  induction j with
  | zero => rfl
  | succ j ih => simp [depthLevel_succ, ih]

/-- Below a single node, the levels are those of the forest of its children, one step deeper. -/
theorem depthLevel_singleton_succ (a : α) (j : Nat) :
    depthLevel children [a] (j + 1) = depthLevel children (children a) j := by
  induction j with
  | zero => simp [depthLevel]
  | succ j ih => rw [depthLevel_succ, ih, depthLevel_succ]

theorem depthLevel_eq_nil_of_le {roots : List α} {i j : Nat}
    (hi : depthLevel children roots i = []) (hij : i ≤ j) : depthLevel children roots j = [] := by
  obtain ⟨d, rfl⟩ := Nat.exists_eq_add_of_le hij
  induction d with
  | zero => exact hi
  | succ d ih => simp [← Nat.add_assoc, depthLevel_succ, ih (Nat.le_add_right i d)]

theorem le_length_levelsAbove {roots : List α} {k : Nat}
    (h : ∀ j < k, depthLevel children roots j ≠ []) : k ≤ (levelsAbove children roots k).length := by
  induction k with
  | zero => exact Nat.zero_le _
  | succ k ih =>
    have hk : 0 < (depthLevel children roots k).length :=
      List.length_pos_iff.mpr (h k (Nat.lt_succ_self k))
    have hrest := ih fun j hj => h j (Nat.lt_succ_of_lt hj)
    rw [levelsAbove_succ, List.length_append]
    omega

/-- Whatever follows the first `k` levels leaves the first `k` nodes alone, provided it is empty
once one of those levels is. -/
theorem take_levelsAbove_append {roots xs : List α} {k : Nat}
    (hxs : (∃ j < k, depthLevel children roots j = []) → xs = []) :
    (levelsAbove children roots k ++ xs).take k = (levelsAbove children roots k).take k := by
  by_cases h : ∃ j < k, depthLevel children roots j = []
  · rw [hxs h, List.append_nil]
  · have hall : ∀ j < k, depthLevel children roots j ≠ [] := fun j hj hnil => h ⟨j, hj, hnil⟩
    rw [List.take_append_of_le_length (le_length_levelsAbove hall)]

theorem take_levelsAbove_succ (roots : List α) (k : Nat) :
    (levelsAbove children roots (k + 1)).take k = (levelsAbove children roots k).take k := by
  rw [levelsAbove_succ]
  apply take_levelsAbove_append
  rintro ⟨j, hj, hnil⟩
  exact depthLevel_eq_nil_of_le hnil (Nat.le_of_lt hj)

/-- Popping `a` and queueing its children: the levels of `q ++ children a` behind `a` are those of
`a :: q`, followed by the level of `a`'s subtree that the last of them has not reached. -/
theorem cons_levelsAbove (a : α) (q : List α) (k : Nat) :
    a :: levelsAbove children (q ++ children a) k =
      levelsAbove children (a :: q) k ++ depthLevel children [a] k := by
  induction k with
  | zero => rfl
  | succ k ih =>
    have hsplit : depthLevel children (a :: q) k = depthLevel children [a] k ++ depthLevel children q k :=
      depthLevel_append [a] q k
    rw [levelsAbove_succ, ← List.cons_append, ih, levelsAbove_succ, hsplit,
      depthLevel_singleton_succ, depthLevel_append]
    simp only [List.append_assoc]

theorem breadthFirst_zero (roots : List α) : breadthFirst children roots 0 = [] := rfl

theorem levelsAbove_nil (k : Nat) : levelsAbove children [] k = [] := by
  induction k with
  | zero => rfl
  | succ k ih => rw [levelsAbove_succ, ih, depthLevel_nil, List.append_nil]

theorem breadthFirst_nil (k : Nat) : breadthFirst children [] k = [] := by
  rw [breadthFirst, levelsAbove_nil, List.take_nil]

/-- **The worklist rule.** The first `k + 1` nodes of the forest with roots `a :: q` are `a`, then
the first `k` nodes of the forest with roots `q ++ children a`. -/
theorem breadthFirst_cons (a : α) (q : List α) (k : Nat) :
    breadthFirst children (a :: q) (k + 1) = a :: breadthFirst children (q ++ children a) k := by
  unfold breadthFirst
  rw [← take_levelsAbove_succ (q ++ children a) k, ← List.take_succ_cons, cons_levelsAbove,
    take_levelsAbove_append]
  -- a level of `a :: q` that is empty empties the same level of `a`'s subtree, and every deeper one
  rintro ⟨j, hj, hnil⟩
  have hsplit : depthLevel children (a :: q) j = depthLevel children [a] j ++ depthLevel children q j :=
    depthLevel_append [a] q j
  rw [hsplit, List.append_eq_nil_iff] at hnil
  exact depthLevel_eq_nil_of_le hnil.1 (Nat.le_of_lt hj)

theorem length_breadthFirst_le (roots : List α) (k : Nat) :
    (breadthFirst children roots k).length ≤ k := by
  rw [breadthFirst, List.length_take]
  exact Nat.min_le_left _ _

theorem mem_levelsAbove {roots : List α} {k : Nat} {x : α}
    (hx : x ∈ levelsAbove children roots k) : ∃ j < k, x ∈ depthLevel children roots j := by
  induction k with
  | zero => simp [levelsAbove] at hx
  | succ k ih =>
    rw [levelsAbove_succ, List.mem_append] at hx
    rcases hx with hx | hx
    · obtain ⟨j, hj, hxj⟩ := ih hx
      exact ⟨j, Nat.lt_succ_of_lt hj, hxj⟩
    · exact ⟨k, Nat.lt_succ_self k, hx⟩

/-- A node among the first `k` lies on one of the first `k` levels. -/
theorem mem_breadthFirst {roots : List α} {k : Nat} {x : α}
    (hx : x ∈ breadthFirst children roots k) : ∃ j < k, x ∈ depthLevel children roots j :=
  mem_levelsAbove (List.mem_of_mem_take hx)

/-- A property of the roots that passes from each node to its children holds of every node of
the forest. -/
theorem forall_mem_depthLevel (P : α → Prop) {roots : List α} (hroots : ∀ r ∈ roots, P r)
    (hchildren : ∀ a, P a → ∀ c ∈ children a, P c) (j : Nat) :
    ∀ x ∈ depthLevel children roots j, P x := by
  induction j with
  | zero => exact hroots
  | succ j ih =>
    intro x hx
    rw [depthLevel_succ, List.mem_flatMap] at hx
    obtain ⟨a, ha, hxa⟩ := hx
    exact hchildren a (ih a ha) x hxa

theorem forall_mem_breadthFirst (P : α → Prop) {roots : List α} (hroots : ∀ r ∈ roots, P r)
    (hchildren : ∀ a, P a → ∀ c ∈ children a, P c) (k : Nat) :
    ∀ x ∈ breadthFirst children roots k, P x := by
  intro x hx
  obtain ⟨j, -, hxj⟩ := mem_breadthFirst hx
  exact forall_mem_depthLevel P hroots hchildren j x hxj

end UaFlow.Flow
