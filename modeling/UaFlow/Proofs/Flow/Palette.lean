import Mathlib
import UaFlow.Flow.Registry
/-!
# What the registry lists

A registry is built by registering node types one after another. Each registration does three
things: it makes its type name known, it makes itself the registration that serves that name
(replacing an earlier one of the same name), and it appends the name to the section of its
category, adding that category to the palette when it is new. Nothing is ever taken out of a
section.

The main statement, `listings_of_registrations`, says what the listings are after any history:
the node types are the registered names, strictly increasing; each section lists one entry per
registration made in its category, in registration order, so a type stays listed where it was
registered before; the palette lists each category that received a registration once, strictly
increasing by path, so a category comes before its descendants; the nodes under a category are
the sections of the palette whose path extends the category's; and sorting the categories in
any order they happen to be enumerated in gives the same palette and the same nodes under each
category.
-/

namespace UaFlow.Flow

/-! ### Sorting distinct items -/

/-- Removing repeats leaves every item once. -/
theorem nodup_eraseDups {α : Type} [BEq α] [LawfulBEq α] : ∀ l : List α, l.eraseDups.Nodup
  | [] => List.nodup_nil
  | a :: as => by
    rw [List.eraseDups_cons]
    exact List.nodup_cons.2 ⟨by simp [List.mem_eraseDups], nodup_eraseDups _⟩
termination_by l => l.length
decreasing_by exact Nat.lt_succ_of_le (List.length_filter_le _ _)

section Sorting

variable {α : Type} [LinearOrder α]

/-- Sorting distinct items by `≤` puts them in strictly increasing order. -/
theorem pairwise_lt_mergeSort {l : List α} (h : l.Nodup) :
    (l.mergeSort fun a b => decide (a ≤ b)).Pairwise (· < ·) := by
  have hsorted : (l.mergeSort fun a b => decide (a ≤ b)).Pairwise fun a b => decide (a ≤ b) :=
    List.pairwise_mergeSort
      (fun a b c hab hbc => by simp only [decide_eq_true_eq] at *; exact le_trans hab hbc)
      (fun a b => by simpa using le_total a b) l
  have hnodup : (l.mergeSort fun a b => decide (a ≤ b)).Nodup :=
    (List.mergeSort_perm l _).nodup_iff.2 h
  exact (hsorted.and hnodup).imp fun ⟨hab, hne⟩ => lt_of_le_of_ne (of_decide_eq_true hab) hne

end Sorting

/-! ### The order of paths -/

/-- `pathBefore` is the lexicographic order of paths. -/
theorem pathBefore_eq_true_iff : ∀ {p q : List String}, pathBefore p q = true ↔ p < q
  | [], [] => by simp [pathBefore]
  | [], _ :: _ => by simp [pathBefore]
  | _ :: _, [] => by simp [pathBefore]
  | a :: p, b :: q => by
    simp [pathBefore, List.cons_lt_cons_iff, pathBefore_eq_true_iff]

/-- The palette sorts paths by `≤`. -/
theorem not_pathBefore_swap (p q : List String) : (!pathBefore q p) = decide (p ≤ q) := by
  have h : p ≤ q ↔ ¬ pathBefore q p = true := by rw [pathBefore_eq_true_iff, not_lt]
  simp only [h, decide_not, Bool.decide_eq_true]

theorem Category.path_injective : Function.Injective Category.path := by
  rintro ⟨p⟩ ⟨q⟩ rfl
  rfl

/-- A category is its own or a descendant's ancestor exactly when its path is a prefix. -/
theorem Category.eq_or_isChildOf_iff (c d : Category) :
    (decide (d = c) || d.isChildOf c) = c.path.isPrefixOf d.path := by
  rw [Bool.eq_iff_iff]
  simp only [Category.isChildOf, Bool.or_eq_true, decide_eq_true_eq, Bool.and_eq_true,
    List.isPrefixOf_iff_prefix]
  constructor
  · rintro (rfl | ⟨-, hpre⟩)
    · exact List.prefix_refl _
    · exact hpre
  · intro hpre
    -- a prefix as long as the path it starts is that path
    rcases Nat.lt_or_ge c.path.length d.path.length with hlt | hge
    · exact .inr ⟨hlt, hpre⟩
    · exact .inl (Category.path_injective (hpre.eq_of_length
        (le_antisymm hpre.length_le hge)).symm)

/-- An ancestor's path comes before its descendant's. -/
theorem Category.path_lt_of_isChildOf {c d : Category} (h : d.isChildOf c = true) :
    c.path < d.path := by
  simp only [Category.isChildOf, Bool.and_eq_true, decide_eq_true_eq,
    List.isPrefixOf_iff_prefix] at h
  have hle : ¬ d.path < c.path := h.2.le
  -- the prefix is strict, being shorter
  exact lt_of_le_of_ne (not_lt.1 hle) fun heq => (heq ▸ h.1).false

/-- Sorting categories with the palette's comparison sorts their paths. -/
theorem map_path_mergeSort (ks : List Category) :
    (ks.mergeSort fun a b => !pathBefore b.path a.path).map Category.path =
      (ks.map Category.path).mergeSort fun p q => decide (p ≤ q) :=
  List.map_mergeSort fun a _ b _ => not_pathBefore_swap a.path b.path

/-- Sorting distinct categories lists them strictly increasing by path. -/
theorem increasing_mergeSort {ks : List Category} (h : ks.Nodup) :
    ((ks.mergeSort fun a b => !pathBefore b.path a.path).map Category.path).Pairwise (· < ·) := by
  rw [map_path_mergeSort]
  exact pairwise_lt_mergeSort (h.map Category.path_injective)

/-- Two listings of categories, each strictly increasing by path, with the same members are
the same listing. -/
theorem eq_of_increasing {cs ds : List Category}
    (hc : (cs.map Category.path).Pairwise (· < ·)) (hd : (ds.map Category.path).Pairwise (· < ·))
    (h : ∀ c, c ∈ cs ↔ c ∈ ds) : cs = ds := by
  apply List.map_injective_iff.2 Category.path_injective
  refine hc.eq_of_mem_iff hd fun p => ?_
  simp only [List.mem_map, h]

/-- In a listing strictly increasing by path, no category comes before its ancestors. -/
theorem pairwise_not_isChildOf {cs : List Category} (h : (cs.map Category.path).Pairwise (· < ·)) :
    cs.Pairwise fun a b => ¬ a.isChildOf b = true :=
  (List.pairwise_map.1 h).imp fun hab hchild =>
    lt_asymm hab (Category.path_lt_of_isChildOf hchild)

namespace Registry

/-! ### What one registration does -/

section Step

variable (r : Registry) (reg : Registration)

@[simp] theorem registrations_register : (r.register reg).registrations = r.registrations ++ [reg] :=
  rfl

/-- A registration serves its name from now on; other names keep their registration. -/
theorem find?_register (t : String) :
    (r.register reg).find? t = if reg.metadata.nodeType = t then some reg else r.find? t := by
  unfold find?
  by_cases h : reg.metadata.nodeType = t <;> simp [h]

/-- A registration appends its name to the section of its category and leaves the others. -/
theorem nodesInCategory_register (c : Category) :
    (r.register reg).nodesInCategory c =
      r.nodesInCategory c ++ if reg.metadata.category = c then [reg.metadata.nodeType] else [] := by
  unfold nodesInCategory
  by_cases h : reg.metadata.category = c <;> simp [h]

end Step

/-- The registry after a history of registrations holds them after its own. -/
theorem registrations_foldl_register (r : Registry) (regs : List Registration) :
    (regs.foldl register r).registrations = r.registrations ++ regs := by
  induction regs generalizing r with
  | nil => simp
  | cons reg regs ih => simp [ih]

/-! ### The sections -/

/-- A type is listed in the section of the registration that serves it. -/
def ListsServed (r : Registry) : Prop :=
  ∀ t reg, r.find? t = some reg → t ∈ r.nodesInCategory reg.metadata.category

theorem listsServed_empty : ListsServed empty := by
  intro t reg h
  simp [find?, empty] at h

/-- A registration keeps every served type listed: the new one is appended to its section, and
sections only grow. -/
theorem listsServed_register {r : Registry} (h : ListsServed r) (reg : Registration) :
    ListsServed (r.register reg) := by
  intro t reg' hfind
  rw [find?_register] at hfind
  rw [nodesInCategory_register, List.mem_append]
  by_cases ht : reg.metadata.nodeType = t
  · simp only [ht, if_true, Option.some.injEq] at hfind
    subst hfind
    simp [ht]
  · simp only [ht, if_false] at hfind
    exact .inl (h t reg' hfind)

theorem listsServed_foldl_register {r : Registry} (h : ListsServed r) (regs : List Registration) :
    ListsServed (regs.foldl register r) := by
  induction regs generalizing r with
  | nil => exact h
  | cons reg regs ih => exact ih (listsServed_register h reg)

/-- A section lists one entry per registration in its category, in registration order. -/
theorem nodesInCategory_foldl_register (regs : List Registration) (c : Category) :
    (regs.foldl register empty).nodesInCategory c =
      (regs.filter fun reg => reg.metadata.category = c).map fun reg => reg.metadata.nodeType := by
  simp [nodesInCategory, registrations_foldl_register, empty]

/-! ### The node types -/

theorem mem_nodeTypes {r : Registry} {t : String} :
    t ∈ r.nodeTypes ↔ ∃ reg ∈ r.registrations, reg.metadata.nodeType = t := by
  simp [nodeTypes, List.mem_eraseDups]

theorem nodeTypes_increasing (r : Registry) : r.nodeTypes.Pairwise (· < ·) :=
  pairwise_lt_mergeSort (nodup_eraseDups _)

/-! ### The palette -/

theorem mem_categories {r : Registry} {c : Category} :
    c ∈ r.categories ↔ ∃ reg ∈ r.registrations, reg.metadata.category = c := by
  simp [categories, List.mem_eraseDups]

theorem mem_sortedCategories {r : Registry} {c : Category} :
    c ∈ r.sortedCategories ↔ ∃ reg ∈ r.registrations, reg.metadata.category = c := by
  rw [sortedCategories, List.mem_mergeSort, mem_categories]

theorem sortedCategories_increasing (r : Registry) :
    (r.sortedCategories.map Category.path).Pairwise (· < ·) :=
  increasing_mergeSort (nodup_eraseDups _)

/-- Whatever order the categories are enumerated in, sorting them gives the palette's order,
and so does sorting those of them that pass a test. -/
theorem mergeSort_filter_of_perm {r : Registry} {ks : List Category} (hks : ks.Perm r.categories)
    (p : Category → Bool) :
    (ks.filter p).mergeSort (fun a b => !pathBefore b.path a.path) = r.sortedCategories.filter p := by
  have hnodup : ks.Nodup := hks.nodup_iff.2 (nodup_eraseDups _)
  refine eq_of_increasing (increasing_mergeSort (hnodup.filter p)) ?_ fun c => ?_
  · exact List.pairwise_map.2 ((List.pairwise_map.1 (sortedCategories_increasing r)).filter p)
  · simp [List.mem_mergeSort, hks.mem_iff, sortedCategories]

theorem mergeSort_of_perm {r : Registry} {ks : List Category} (hks : ks.Perm r.categories) :
    ks.mergeSort (fun a b => !pathBefore b.path a.path) = r.sortedCategories := by
  simpa using mergeSort_filter_of_perm hks fun _ => true

/-- The nodes under a category are the sections, in palette order, whose path extends its. -/
theorem nodesUnder_eq (r : Registry) (c : Category) :
    r.nodesUnder c =
      (r.sortedCategories.filter fun d => c.path.isPrefixOf d.path).flatMap r.nodesInCategory := by
  unfold nodesUnder
  congr 1
  exact List.filter_congr fun d _ => Category.eq_or_isChildOf_iff c d

/-! ### The listings after any history -/

/-- What the registry lists after any history of registrations from the empty registry. The
node types are the registered names, strictly increasing. A section lists one entry per
registration made in its category, in registration order, and lists every type in the section
of the registration that serves it. The palette has a section for each category that received
a registration, in a listing `cs` strictly increasing by path, so no category comes before its
ancestors; the nodes under a category are the sections of `cs` whose path extends the
category's; and enumerating the categories in any order before sorting them gives the same
palette and the same nodes under each category. -/
theorem listings_of_registrations (regs : List Registration) :
    let r := regs.foldl register empty
    (r.nodeTypes.Pairwise (· < ·) ∧ ∀ t, t ∈ r.nodeTypes ↔ ∃ reg ∈ regs, reg.metadata.nodeType = t) ∧
    (∀ c, r.nodesInCategory c =
      (regs.filter fun reg => reg.metadata.category = c).map fun reg => reg.metadata.nodeType) ∧
    (∀ t reg, r.find? t = some reg → t ∈ r.nodesInCategory reg.metadata.category) ∧
    ∃ cs : List Category,
      (cs.map Category.path).Pairwise (· < ·) ∧
      (∀ c, c ∈ cs ↔ ∃ reg ∈ regs, reg.metadata.category = c) ∧
      cs.Pairwise (fun a b => ¬ a.isChildOf b = true) ∧
      r.palette = cs.map (fun c => (c.display, r.nodesInCategory c)) ∧
      (∀ c, r.nodesUnder c =
        (cs.filter fun d => c.path.isPrefixOf d.path).flatMap r.nodesInCategory) ∧
      ∀ ks : List Category, ks.Perm cs →
        (ks.mergeSort fun a b => !pathBefore b.path a.path).map
          (fun c => (c.display, r.nodesInCategory c)) = r.palette ∧
        ∀ c, ((ks.filter fun d => decide (d = c) || d.isChildOf c).mergeSort
          fun a b => !pathBefore b.path a.path).flatMap r.nodesInCategory = r.nodesUnder c := by
  intro r
  have hregs : r.registrations = regs := by simp [r, registrations_foldl_register, empty]
  refine ⟨⟨r.nodeTypes_increasing, fun t => hregs ▸ mem_nodeTypes⟩,
    nodesInCategory_foldl_register regs, listsServed_foldl_register listsServed_empty regs,
    r.sortedCategories, r.sortedCategories_increasing, fun c => hregs ▸ mem_sortedCategories,
    pairwise_not_isChildOf r.sortedCategories_increasing, rfl, r.nodesUnder_eq, ?_⟩
  -- an enumeration of the sorted categories enumerates the categories themselves
  intro ks hks
  have hperm : ks.Perm r.categories := hks.trans (List.mergeSort_perm _ _)
  refine ⟨by rw [mergeSort_of_perm hperm]; rfl, fun c => ?_⟩
  rw [mergeSort_filter_of_perm hperm]
  rfl

/-- A type registered again under another category stays listed under the first: it appears
in two sections of the palette. -/
theorem palette_moved_type_in_both_sections :
    ((empty.register ⟨NodeKind.item.metadata, .item⟩).register
      ⟨{ NodeKind.item.metadata with category := .opcuaConfig }, .item⟩).palette =
      [("OPC UA", ["OpcUa-Item"]), ("OPC UA > Config", ["OpcUa-Item"])] := by
  cbv

end Registry

end UaFlow.Flow
