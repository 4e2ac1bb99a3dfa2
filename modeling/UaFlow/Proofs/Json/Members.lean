import UaFlow.Json.Value
/-!
# Sorted members

The members of an object are kept with their keys strictly increasing (`Members.Sorted`). Adding
a member (`Members.insert`) keeps them so, and finds the new value under its key and the old
values under every other key; building members from pairs (`Members.ofList`) gives the last value
of each key, and pairs already sorted come back unchanged. Two sorted member lists that hold the
same value under every key are equal (`Members.eq_of_find?`), which is how a list built one way is
shown to be the list built another.
-/

namespace UaFlow.Json.Members

/-- Members whose keys strictly increase. -/
def Sorted (ms : List (String × Value)) : Prop :=
  ms.Pairwise fun a b => a.1 < b.1

@[simp] theorem sorted_nil : Sorted [] :=
  List.Pairwise.nil

theorem sorted_cons {p : String × Value} {ms : List (String × Value)} :
    Sorted (p :: ms) ↔ (∀ q ∈ ms, p.1 < q.1) ∧ Sorted ms :=
  List.pairwise_cons

theorem Sorted.tail {p : String × Value} {ms : List (String × Value)} (h : Sorted (p :: ms)) : Sorted ms :=
  (sorted_cons.mp h).2

theorem Sorted.sublist {ms ns : List (String × Value)} (hsub : ns.Sublist ms) (h : Sorted ms) : Sorted ns :=
  List.Pairwise.sublist hsub h

theorem Sorted.filter {ms : List (String × Value)} (p : String × Value → Bool) (h : Sorted ms) :
    Sorted (ms.filter p) :=
  h.sublist List.filter_sublist

theorem sorted_append_single {ms : List (String × Value)} {k : String} {v : Value} (h : Sorted ms)
    (hlt : ∀ p ∈ ms, p.1 < k) : Sorted (ms ++ [(k, v)]) := by
  unfold Sorted
  rw [List.pairwise_append]
  exact ⟨h, List.pairwise_singleton _ _, fun a ha b hb => by
    rw [List.mem_singleton] at hb
    rw [hb]
    exact hlt a ha⟩

/-- Keys compare one way or the other. -/
theorem lt_or_gt_of_ne {a b : String} (h : a ≠ b) : a < b ∨ b < a := by
  by_cases hab : a < b
  · exact .inl hab
  · exact .inr (Std.lt_of_le_of_ne hab (Ne.symm h))

/-! ## Looking a key up -/

@[simp] theorem find?_nil (k : String) : find? k [] = none := rfl

theorem find?_cons (k k' : String) (v : Value) (ms : List (String × Value)) :
    find? k ((k', v) :: ms) = if k = k' then some v else find? k ms := rfl

/-- A key below every key of the members is not among them. -/
theorem find?_eq_none_of_lt {k : String} {ms : List (String × Value)} (h : ∀ p ∈ ms, k < p.1) :
    find? k ms = none := by
  induction ms with
  | nil => rfl
  | cons p rest ih =>
    obtain ⟨k', v⟩ := p
    have hne : k ≠ k' := fun he => String.lt_irrefl k (he ▸ h (k', v) List.mem_cons_self)
    rw [find?_cons, if_neg hne]
    exact ih fun q hq => h q (List.mem_cons_of_mem _ hq)

theorem find?_eq_none_of_not_mem {k : String} {ms : List (String × Value)} (h : ∀ p ∈ ms, p.1 ≠ k) :
    find? k ms = none := by
  induction ms with
  | nil => rfl
  | cons p rest ih =>
    obtain ⟨k', v⟩ := p
    rw [find?_cons, if_neg (Ne.symm (h (k', v) List.mem_cons_self))]
    exact ih fun q hq => h q (List.mem_cons_of_mem _ hq)

/-- In sorted members, the value found under the key of a member is that member's. -/
theorem find?_of_mem {k : String} {v : Value} {ms : List (String × Value)} (hs : Sorted ms)
    (hmem : (k, v) ∈ ms) : find? k ms = some v := by
  induction ms with
  | nil => cases hmem
  | cons p rest ih =>
    obtain ⟨k', v'⟩ := p
    obtain ⟨hlt, hrest⟩ := sorted_cons.mp hs
    rw [find?_cons]
    rcases List.mem_cons.mp hmem with he | hin
    · cases he
      rw [if_pos rfl]
    · have hne : k ≠ k' := fun he => String.lt_irrefl k (he ▸ hlt (k, v) hin)
      rw [if_neg hne]
      exact ih hrest hin

theorem mem_of_find? {k : String} {v : Value} {ms : List (String × Value)} (h : find? k ms = some v) :
    (k, v) ∈ ms := by
  induction ms with
  | nil => cases h
  | cons p rest ih =>
    obtain ⟨k', v'⟩ := p
    rw [find?_cons] at h
    by_cases hk : k = k'
    · rw [if_pos hk, Option.some.injEq] at h
      rw [hk, h]
      exact List.mem_cons_self
    · rw [if_neg hk] at h
      exact List.mem_cons_of_mem _ (ih h)

/-- **Sorted members are determined by what they hold under each key.** -/
theorem eq_of_find? {ms ns : List (String × Value)} (hms : Sorted ms) (hns : Sorted ns)
    (h : ∀ k, find? k ms = find? k ns) : ms = ns := by
  induction ms generalizing ns with
  | nil =>
    cases ns with
    | nil => rfl
    | cons q qs =>
      obtain ⟨k', v'⟩ := q
      have hq := h k'
      rw [find?_nil, find?_cons, if_pos rfl] at hq
      cases hq
  | cons p ps ih =>
    obtain ⟨k, v⟩ := p
    obtain ⟨hlt, hps⟩ := sorted_cons.mp hms
    have hk := h k
    rw [find?_cons, if_pos rfl] at hk
    cases ns with
    | nil => cases hk
    | cons q qs =>
      obtain ⟨k', v'⟩ := q
      obtain ⟨hlt', hqs⟩ := sorted_cons.mp hns
      -- the first keys agree: a smaller first key on one side is missing on the other
      have hkk : k = k' := by
        apply Classical.byContradiction
        intro hne
        rcases lt_or_gt_of_ne hne with hless | hmore
        · have hnone : find? k ((k', v') :: qs) = none :=
            find?_eq_none_of_lt fun p hp => by
              rcases List.mem_cons.mp hp with rfl | hp
              · exact hless
              · exact String.lt_trans hless (hlt' p hp)
          rw [hnone] at hk
          cases hk
        · have hk' := h k'
          rw [find?_cons k' k', if_pos rfl] at hk'
          have hnone : find? k' ((k, v) :: ps) = none :=
            find?_eq_none_of_lt fun p hp => by
              rcases List.mem_cons.mp hp with rfl | hp
              · exact hmore
              · exact String.lt_trans hmore (hlt p hp)
          rw [hnone] at hk'
          cases hk'
      subst hkk
      rw [find?_cons, if_pos rfl, Option.some.injEq] at hk
      subst hk
      have htails : ∀ j, find? j ps = find? j qs := by
        intro j
        by_cases hj : j = k
        · subst hj
          rw [find?_eq_none_of_lt hlt, find?_eq_none_of_lt hlt']
        · have hjk := h j
          rw [find?_cons, if_neg hj, find?_cons, if_neg hj] at hjk
          exact hjk
      rw [ih hps hqs htails]

/-! ## Keeping some members -/

/-- Keeping the members whose keys pass a test keeps what is held under a key that passes. -/
theorem find?_filter (j : String) (p : String → Bool) (ms : List (String × Value)) :
    find? j (ms.filter fun kv => p kv.1) = if p j then find? j ms else none := by
  induction ms with
  | nil => simp
  | cons m ms ih =>
    obtain ⟨k, v⟩ := m
    by_cases hjk : j = k
    · subst hjk
      by_cases hp : p j <;> simp [hp, find?_cons, ih]
    · by_cases hp : p k <;> simp [hp, find?_cons, hjk, ih]

theorem Sorted.filterMap_key {ms : List (String × Value)} (hs : Sorted ms) (f : String → Value → Option Value) :
    Sorted (ms.filterMap fun kv => (f kv.1 kv.2).map (kv.1, ·)) := by
  unfold Sorted at *
  rw [List.pairwise_filterMap]
  refine hs.imp ?_
  intro a b hab x hx y hy
  obtain ⟨_, _, rfl⟩ := Option.map_eq_some_iff.mp hx
  obtain ⟨_, _, rfl⟩ := Option.map_eq_some_iff.mp hy
  exact hab

/-- Mapping the values of sorted members, dropping some, maps what is held under each key. -/
theorem find?_filterMap_key {ms : List (String × Value)} (hs : Sorted ms) (f : String → Value → Option Value)
    (j : String) :
    find? j (ms.filterMap fun kv => (f kv.1 kv.2).map (kv.1, ·)) = (find? j ms).bind (f j) := by
  induction ms with
  | nil => rfl
  | cons m ms ih =>
    obtain ⟨k, v⟩ := m
    obtain ⟨hlt, hms⟩ := sorted_cons.mp hs
    rw [List.filterMap_cons, find?_cons]
    by_cases hjk : j = k
    · subst hjk
      -- the later members all have larger keys, so nothing is found under this one after it
      have hnone : find? j ms = none := find?_eq_none_of_lt hlt
      cases hf : f j v with
      | none => simp [ih hms, hnone, hf]
      | some y => simp [find?_cons, hf]
    · cases hf : f k v with
      | none => simp [ih hms, hjk]
      | some y => simp [find?_cons, hjk, ih hms]

/-! ## Adding a member -/

theorem find?_insert (j k : String) (v : Value) (ms : List (String × Value)) :
    find? j (insert k v ms) = if j = k then some v else find? j ms := by
  induction ms with
  | nil => rfl
  | cons p rest ih =>
    obtain ⟨k', v'⟩ := p
    unfold insert
    by_cases h1 : k < k'
    · rw [if_pos h1]
      rfl
    · rw [if_neg h1]
      by_cases h2 : k = k'
      · subst h2
        rw [if_pos rfl, find?_cons, find?_cons]
        by_cases hj : j = k <;> simp [hj]
      · rw [if_neg h2, find?_cons, find?_cons, ih]
        by_cases hj : j = k
        · subst hj
          simp [h2]
        · simp [hj]

/-- Every key of members with a member added is the new key or an old one. -/
theorem mem_insert_key {k : String} {v : Value} {ms : List (String × Value)} {p : String × Value}
    (hp : p ∈ insert k v ms) : p.1 = k ∨ ∃ q ∈ ms, q.1 = p.1 := by
  induction ms with
  | nil =>
    rw [insert, List.mem_singleton] at hp
    exact .inl (by rw [hp])
  | cons q rest ih =>
    obtain ⟨k', v'⟩ := q
    unfold insert at hp
    split at hp
    · rcases List.mem_cons.mp hp with rfl | hp
      · exact .inl rfl
      · exact .inr ⟨p, hp, rfl⟩
    · split at hp
      · rcases List.mem_cons.mp hp with rfl | hp
        · exact .inl rfl
        · exact .inr ⟨p, List.mem_cons_of_mem _ hp, rfl⟩
      · rcases List.mem_cons.mp hp with rfl | hp
        · exact .inr ⟨_, List.mem_cons_self, rfl⟩
        · rcases ih hp with hk | ⟨q, hq, hqp⟩
          · exact .inl hk
          · exact .inr ⟨q, List.mem_cons_of_mem _ hq, hqp⟩

/-- Adding a member keeps members sorted. -/
theorem Sorted.insert {ms : List (String × Value)} (k : String) (v : Value) (h : Sorted ms) :
    Sorted (Members.insert k v ms) := by
  induction ms with
  | nil => exact List.pairwise_singleton _ _
  | cons q rest ih =>
    obtain ⟨k', v'⟩ := q
    obtain ⟨hlt, hrest⟩ := sorted_cons.mp h
    unfold Members.insert
    by_cases h1 : k < k'
    · rw [if_pos h1]
      exact sorted_cons.mpr ⟨fun p hp => by
        rcases List.mem_cons.mp hp with rfl | hp
        · exact h1
        · exact String.lt_trans h1 (hlt p hp), h⟩
    · rw [if_neg h1]
      by_cases h2 : k = k'
      · subst h2
        rw [if_pos rfl]
        exact sorted_cons.mpr ⟨hlt, hrest⟩
      · rw [if_neg h2]
        refine sorted_cons.mpr ⟨fun p hp => ?_, ih hrest⟩
        rcases mem_insert_key hp with hk | ⟨q, hq, hqp⟩
        · rw [hk]
          exact Std.lt_of_le_of_ne h1 (Ne.symm h2)
        · rw [← hqp]
          exact hlt q hq

/-- A key above every key of the members is added at the end. -/
theorem insert_of_lt {k : String} {v : Value} {ms : List (String × Value)} (h : ∀ p ∈ ms, p.1 < k) :
    insert k v ms = ms ++ [(k, v)] := by
  induction ms with
  | nil => rfl
  | cons q rest ih =>
    obtain ⟨k', v'⟩ := q
    have hgt : k' < k := h (k', v') List.mem_cons_self
    unfold insert
    rw [if_neg (String.lt_asymm hgt), if_neg (fun he : k = k' => String.lt_irrefl k (he ▸ hgt)),
      ih fun p hp => h p (List.mem_cons_of_mem _ hp)]
    rfl

/-! ## Members from pairs -/

/-- Adding pairs to members, one after another. -/
theorem foldl_insert_cons (acc : List (String × Value)) (k : String) (v : Value)
    (kvs : List (String × Value)) :
    ((k, v) :: kvs).foldl (fun acc kv => insert kv.1 kv.2 acc) acc =
      kvs.foldl (fun acc kv => insert kv.1 kv.2 acc) (insert k v acc) := rfl

theorem Sorted.foldl_insert {acc : List (String × Value)} (h : Sorted acc) (kvs : List (String × Value)) :
    Sorted (kvs.foldl (fun acc kv => Members.insert kv.1 kv.2 acc) acc) := by
  induction kvs generalizing acc with
  | nil => exact h
  | cons kv rest ih => exact ih (h.insert kv.1 kv.2)

theorem sorted_ofList (kvs : List (String × Value)) : Sorted (ofList kvs) :=
  sorted_nil.foldl_insert kvs

/-- The value found under a key after adding pairs is that of the last pair with the key, or
else the one found before. -/
theorem find?_foldl_insert (j : String) (acc kvs : List (String × Value)) :
    find? j (kvs.foldl (fun acc kv => insert kv.1 kv.2 acc) acc) =
      ((kvs.reverse.find? fun kv => kv.1 == j).map (·.2)).or (find? j acc) := by
  induction kvs generalizing acc with
  | nil => rfl
  | cons kv rest ih =>
    obtain ⟨k, v⟩ := kv
    rw [foldl_insert_cons, ih, find?_insert, List.reverse_cons, List.find?_append]
    cases rest.reverse.find? fun kv => kv.1 == j with
    | some kv => rfl
    | none =>
      by_cases hj : j = k
      · subst hj
        simp
      · have hne : (k == j) = false := by simpa using Ne.symm hj
        simp [hne, hj]

theorem find?_ofList (j : String) (kvs : List (String × Value)) :
    find? j (ofList kvs) = (kvs.reverse.find? fun kv => kv.1 == j).map (·.2) := by
  rw [ofList, find?_foldl_insert, find?_nil, Option.or_none]

/-- Every member made from pairs is one of the pairs. -/
theorem mem_of_mem_ofList {p : String × Value} {kvs : List (String × Value)} (hp : p ∈ ofList kvs) : p ∈ kvs := by
  have hfind := find?_of_mem (sorted_ofList kvs) hp
  rw [find?_ofList] at hfind
  obtain ⟨q, hq, hqv⟩ := Option.map_eq_some_iff.mp hfind
  have hqk : q.1 = p.1 := by simpa using List.find?_some hq
  have hmem := List.mem_reverse.mp (List.mem_of_find?_eq_some hq)
  have hqp : q = p := Prod.ext hqk hqv
  exact hqp ▸ hmem

/-- Under a key, members from pairs hold what the later pairs say, else what the earlier ones say. -/
theorem find?_ofList_append (j : String) (kvs kvs' : List (String × Value)) :
    find? j (ofList (kvs ++ kvs')) = (find? j (ofList kvs')).or (find? j (ofList kvs)) := by
  rw [ofList, List.foldl_append, find?_foldl_insert, ← find?_ofList]
  rfl

/-- Pairs whose keys all lie above the members' are added at the end, in order. -/
theorem foldl_insert_of_lt {acc kvs : List (String × Value)} (hs : Sorted kvs)
    (hlt : ∀ p ∈ acc, ∀ q ∈ kvs, p.1 < q.1) :
    kvs.foldl (fun acc kv => insert kv.1 kv.2 acc) acc = acc ++ kvs := by
  induction kvs generalizing acc with
  | nil => rw [List.append_nil]; rfl
  | cons kv rest ih =>
    obtain ⟨k, v⟩ := kv
    obtain ⟨hk, hrest⟩ := sorted_cons.mp hs
    rw [foldl_insert_cons, insert_of_lt fun p hp => hlt p hp (k, v) List.mem_cons_self,
      ih hrest, List.append_assoc, List.singleton_append]
    intro p hp q hq
    rcases List.mem_append.mp hp with hp | hp
    · exact hlt p hp q (List.mem_cons_of_mem _ hq)
    · rw [List.mem_singleton] at hp
      rw [hp]
      exact hk q hq

/-- Sorted pairs are their own members. -/
theorem ofList_of_sorted {kvs : List (String × Value)} (h : Sorted kvs) : ofList kvs = kvs :=
  foldl_insert_of_lt h (fun _ hp => nomatch hp)

end UaFlow.Json.Members
