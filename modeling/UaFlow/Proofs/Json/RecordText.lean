import UaFlow.Proofs.Json.ValueText
/-!
# Reading shapes from the compact text of a value

A shape reads the compact text of a value much as `readValue` does: a string as a string, `null`
as absent under an optional shape, an array item by item under a list shape, and an object member
by member under a record shape, each known field under the shape of its field and every other
member, in an open record, buffered and read again. `ShapeReads` says that a shape reads the text
of a value into a given result, whatever follows it, with any fuel above a bound; each shape a
value can meet has a lemma that builds it from what the value's parts read.

For a record, the members read so far are folded by `gatherField`, which is what one step of
`readRecordMembers` does with a member (`readRecordMembers_text`).
-/

namespace UaFlow.Json

open UaFlow.Text UaFlow.Ua

/-! ## The head of a value that is not `null` -/

theorem skipBlank_render {v : Value} (hv : v.Canonical) (more : List Char) (i : Nat) :
    Cursor.skipBlank ⟨v.render.toList ++ more, i⟩ = ⟨v.render.toList ++ more, i⟩ := by
  obtain ⟨c, cs, hcs, hblank, -⟩ := render_head hv
  rw [hcs, List.cons_append]
  exact skipBlank_of_head hblank _ i

/-- Only `null` is written starting with `n`. -/
theorem render_head_ne_null {v : Value} (hv : v.Canonical) (hnull : v ≠ .null) :
    ∃ c cs, v.render.toList = c :: cs ∧ c ≠ 'n' := by
  cases v with
  | null => exact absurd rfl hnull
  | bool bv => cases bv <;> exact ⟨_, _, rfl, by decide⟩
  | num x =>
    obtain ⟨c, cs, hcs, -⟩ := render_head hv
    refine ⟨c, cs, hcs, ?_⟩
    obtain ⟨lit, hx⟩ := hv
    obtain ⟨d, ds, hds, hd⟩ := lit.whole.exists_cons
    have htext : (Value.num x).render.toList = lit.sign.chars ++ d :: (ds ++ lit.tailChars) := by
      simp [Value.render, hx, DecimalLiteral.text, hds]
    rw [htext] at hcs
    cases hs : lit.sign with
    | plus => exact absurd hs lit.sign_ne_plus
    | minus =>
      rw [hs] at hcs
      cases hcs
      decide
    | none =>
      rw [hs] at hcs
      cases hcs
      rintro rfl
      exact absurd hd (by decide)
  | str s => exact ⟨'"', _, by rw [render_str, toList_jsonQuote], by decide⟩
  | arr items => exact ⟨'[', _, toList_render_arr items, by decide⟩
  | obj ms => exact ⟨'\x7b', _, toList_render_obj ms, by decide⟩

/-! ## Shapes that read a value -/

/-- Under shape `s`, with any fuel above `need`, the compact text of `v` reads as `o`, and reading
stops right after it. -/
def ShapeReads (len depth need : Nat) (s : Shape) (v : Value) (o : Option Value) : Prop :=
  ∀ (fuel : Nat) (rest : List Char) (i : Nat), need < fuel → Delimited rest →
    i + byteCount v.render.toList ≤ len →
    readShape len fuel depth s ⟨v.render.toList ++ rest, i⟩ = .ok (o, ⟨rest, i + byteCount v.render.toList⟩)

section Shapes

variable {len depth need : Nat}

theorem ShapeReads.mono {s : Shape} {v : Value} {o : Option Value} {need' : Nat}
    (h : ShapeReads len depth need s v o) (hle : need ≤ need') : ShapeReads len depth need' s v o :=
  fun fuel rest i hfuel => h fuel rest i (by omega)

theorem shapeReads_any {v : Value} (hv : v.Canonical) (hdepth : v.depth < depth) :
    ShapeReads len depth v.render.toList.length .any v (some v) := by
  intro fuel rest i hfuel hrest hlen
  obtain ⟨f, rfl⟩ : ∃ f, fuel = f + 1 := ⟨fuel - 1, by omega⟩
  have hread := readValue_render len false hv hdepth (n := f) (by omega) hrest hlen
  simp only [readShape, skipBlank_render hv, hread, Except.map]

theorem shapeReads_text (t : String) : ShapeReads len depth 0 .text (.str t) (some (.str t)) := by
  intro fuel rest i hfuel _ hlen
  obtain ⟨f, rfl⟩ : ∃ f, fuel = f + 1 := ⟨fuel - 1, by omega⟩
  have hquote : ('"' : Char).utf8Size = 1 := rfl
  rw [render_str, toList_jsonQuote, byteCount_cons, hquote] at hlen ⊢
  rw [List.cons_append]
  simp only [readShape, skipBlank_of_head (c := '"') rfl,
    readString_quoted len t rest (i + 1) (by omega), Except.map, Nat.add_assoc]

theorem shapeReads_optional_null (s : Shape) : ShapeReads len depth 0 (.optional s) .null none := by
  intro fuel rest i hfuel _ _
  obtain ⟨f, rfl⟩ : ∃ f, fuel = f + 1 := ⟨fuel - 1, by omega⟩
  simp only [readShape]
  exact congrArg (Except.map fun c' => (none, c')) (readIdent_append ['u', 'l', 'l'] rest (i + 1))

/-- An optional shape reads a value other than `null` as its inner shape does, with one more unit
of fuel. -/
theorem ShapeReads.optional {s : Shape} {v : Value} {o : Option Value} (h : ShapeReads len depth need s v o)
    (hv : v.Canonical) (hnull : v ≠ .null) : ShapeReads len depth (need + 1) (.optional s) v o := by
  intro fuel rest i hfuel hrest hlen
  obtain ⟨f, rfl⟩ : ∃ f, fuel = f + 1 := ⟨fuel - 1, by omega⟩
  have hinner := h f rest i (by omega) hrest hlen
  obtain ⟨c, cs, hcs, hc⟩ := render_head_ne_null hv hnull
  simp only [readShape, skipBlank_render hv]
  rw [hcs, List.cons_append] at hinner ⊢
  split
  · rename_i heq
    simp only [List.cons.injEq] at heq
    exact absurd heq.1 hc
  · exact hinner

/-! ## Lists -/

/-- The items of an array from a given one on read under one shape, up to the closing bracket. -/
theorem readShapeItems_text {s : Shape} {o : Value → Option Value} :
    ∀ (items : List Value) (first : Bool) (acc : List Value) (fuel i : Nat) (rest : List Char),
      (∀ y ∈ items, ShapeReads len depth need s y (o y)) → ItemsCanonical items →
      need + (itemsText first items).length < fuel → i + byteCount (itemsText first items) ≤ len →
      readShapeItems len fuel depth s first acc ⟨itemsText first items ++ ']' :: rest, i⟩ =
        .ok (acc.reverse ++ items.map (fun y => (o y).getD .null),
          ⟨']' :: rest, i + byteCount (itemsText first items)⟩)
  | [], first, acc, fuel, i, rest, _, _, hfuel, _ => by
    obtain ⟨f, rfl⟩ : ∃ f, fuel = f + 1 := ⟨fuel - 1, by omega⟩
    have hnil : itemsText first [] = [] := by cases first <;> rfl
    rw [hnil]
    simp [readShapeItems, nextItem_close, skipBlank_of_head (c := ']') rfl]
  | v :: vs, first, acc, fuel, i, rest, hreads, ⟨hcv, hcvs⟩, hfuel, hlen => by
    obtain ⟨f, rfl⟩ : ∃ f, fuel = f + 1 := ⟨fuel - 1, by omega⟩
    have hpos : 0 < v.render.toList.length := by
      obtain ⟨c, cs, hcs, -⟩ := render_head hcv
      simp [hcs]
    have hv := hreads v List.mem_cons_self
    have hvs : ∀ y ∈ vs, ShapeReads len depth need s y (o y) := fun y hy => hreads y (List.mem_cons_of_mem v hy)
    cases first with
    | true =>
      simp only [itemsText_true, toList_renderItems_cons, List.length_append, byteCount_append]
        at hfuel hlen ⊢
      have hread := hv f (commaItems vs ++ ']' :: rest) i (by omega) (delimited_commaItems vs rest) (by omega)
      have hmore := readShapeItems_text vs false ((o v).getD .null :: acc) f (i + byteCount v.render.toList)
        rest hvs hcvs (by rw [itemsText_false]; omega) (by rw [itemsText_false]; omega)
      rw [itemsText_false] at hmore
      simp only [readShapeItems, List.append_assoc, nextItem_value len hcv, ok_bind, hread, hmore]
      simp [Nat.add_assoc]
    | false =>
      have hcomma : (',' : Char).utf8Size = 1 := rfl
      simp only [itemsText_false, commaItems_cons, List.length_cons, List.length_append, byteCount_cons,
        byteCount_append, hcomma] at hfuel hlen ⊢
      have hread := hv f (commaItems vs ++ ']' :: rest) (i + 1) (by omega) (delimited_commaItems vs rest)
        (by omega)
      have hmore := readShapeItems_text vs false ((o v).getD .null :: acc) f
        (i + 1 + byteCount v.render.toList) rest hvs hcvs (by rw [itemsText_false]; omega)
        (by rw [itemsText_false]; omega)
      rw [itemsText_false] at hmore
      simp only [readShapeItems, List.cons_append, List.append_assoc, nextItem_comma_value len hcv, ok_bind,
        hread, hmore]
      simp [Nat.add_assoc]

/-- A list shape reads an array item by item, one bracket deeper. -/
theorem shapeReads_list {s : Shape} {o : Value → Option Value} {items : List Value} (hdepth : 1 < depth)
    (hreads : ∀ y ∈ items, ShapeReads len (depth - 1) need s y (o y)) (hcanon : ItemsCanonical items) :
    ShapeReads len depth (need + (Value.arr items).render.toList.length) (.list s) (.arr items)
      (some (.arr (items.map fun y => (o y).getD .null))) := by
  intro fuel rest i hfuel hrest hlen
  obtain ⟨f, rfl⟩ : ∃ f, fuel = f + 1 := ⟨fuel - 1, by omega⟩
  have hsize : ('[' : Char).utf8Size = 1 ∧ (']' : Char).utf8Size = 1 := ⟨rfl, rfl⟩
  rw [toList_render_arr] at hfuel hlen ⊢
  simp only [List.length_cons, List.length_append, List.length_nil, byteCount_cons, byteCount_append,
    byteCount_nil, hsize] at hfuel hlen ⊢
  have hitems := readShapeItems_text items true [] f (i + 1) rest hreads hcanon
    (by rw [itemsText_true]; omega) (by rw [itemsText_true]; omega)
  rw [itemsText_true, List.reverse_nil, List.nil_append] at hitems
  simp only [List.cons_append, List.append_assoc, List.nil_append]
  simp only [readShape, skipBlank_of_head (c := '[') rfl, if_neg (Nat.not_le.mpr hdepth), hitems, ok_bind,
    closeList_close]
  simp [Nat.add_assoc]

/-! ## Records -/

/-- The fields of a record shape. -/
def Shape.fields : Shape → List (String × Shape × Bool)
  | .record _ fields _ => fields
  | _ => []

theorem fieldShape?_eq_none {fields : List (String × Shape × Bool)} {k : String} (h : k ∉ fieldNames fields) :
    fieldShape? fields k = none := by
  rw [fieldShape?, Option.map_eq_none_iff, List.find?_eq_none]
  intro f hf hk
  exact h (List.mem_map.mpr ⟨f, hf, by simpa using hk⟩)

theorem fieldShape?_isSome {fields : List (String × Shape × Bool)} {k : String} (h : k ∈ fieldNames fields) :
    (fieldShape? fields k).isSome := by
  obtain ⟨f, hf, rfl⟩ := List.mem_map.mp h
  rw [fieldShape?, Option.isSome_map, List.find?_isSome]
  exact ⟨f, hf, by simp⟩

theorem mem_of_fieldShape? {fields : List (String × Shape × Bool)} {k : String} {s : Shape}
    (h : fieldShape? fields k = some s) : ∃ req, (k, s, req) ∈ fields := by
  obtain ⟨f, hf, rfl⟩ := Option.map_eq_some_iff.mp h
  have hk : f.1 = k := by simpa using List.find?_some hf
  exact ⟨f.2.2, by rw [← hk]; exact List.mem_of_find?_eq_some hf⟩

/-- The members of an object from the first one on, or from a later one on. -/
def membersText (first : Bool) (ms : List (String × Value)) : List Char :=
  if first then (renderMembers ms).toList else commaMembers ms

@[simp] theorem membersText_true (ms : List (String × Value)) :
    membersText true ms = (renderMembers ms).toList := rfl

@[simp] theorem membersText_false (ms : List (String × Value)) : membersText false ms = commaMembers ms := rfl

/-- What reading a record gathers from one member: the key of a known field is seen and its value,
when it reads as present, stored; any other member is kept. -/
def gatherField (fields : List (String × Shape × Bool)) (o : String → Value → Option Value)
    (st : List String × List (String × Value) × List (String × Value)) (m : String × Value) :
    List String × List (String × Value) × List (String × Value) :=
  match fieldShape? fields m.1 with
  | some _ =>
    (m.1 :: st.1, (match o m.1 m.2 with
      | some y => Members.insert m.1 y st.2.1
      | none => st.2.1), st.2.2)
  | none => (st.1, st.2.1, m :: st.2.2)

/-- A member that a record reads: a known field reads under its shape as `o` says, and any other
member is, in an open record, a canonical value. -/
def MemberReads (len depth need : Nat) (fields : List (String × Shape × Bool)) (isOpen : Bool)
    (o : String → Value → Option Value) (m : String × Value) : Prop :=
  match fieldShape? fields m.1 with
  | some s => ShapeReads len depth need s m.2 (o m.1 m.2)
  | none => isOpen = true ∧ m.2.Canonical ∧ m.2.depth < depth ∧ m.2.render.toList.length ≤ need

variable {fields : List (String × Shape × Bool)} {isOpen : Bool} {o : String → Value → Option Value}

theorem MemberReads.mono {m : String × Value} {need' : Nat} (h : MemberReads len depth need fields isOpen o m)
    (hle : need ≤ need') : MemberReads len depth need' fields isOpen o m := by
  unfold MemberReads at h ⊢
  cases hfs : fieldShape? fields m.1 with
  | some s =>
    rw [hfs] at h
    exact h.mono hle
  | none =>
    rw [hfs] at h
    exact ⟨h.1, h.2.1, h.2.2.1, Nat.le_trans h.2.2.2 hle⟩

theorem mem_gatherField_seen {st : List String × List (String × Value) × List (String × Value)}
    {m : String × Value} {x : String} (hx : x ∈ (gatherField fields o st m).1) : x = m.1 ∨ x ∈ st.1 := by
  unfold gatherField at hx
  split at hx
  · exact List.mem_cons.mp hx
  · exact .inr hx

/-- One step of reading the members of a record: after the key of a member, the colon and its
value are read and the member gathered. -/
theorem readRecordMembers_step {first : Bool} {seen : List String} {acc kept : List (String × Value)}
    {c : Cursor} {k : String} {v : Value} {more : List Char} {j f : Nat}
    (hkey : nextKey len first c = .ok (some (k, ⟨':' :: (v.render.toList ++ more), j⟩)))
    (hm : MemberReads len depth need fields isOpen o (k, v)) (hseen : k ∉ seen) (hneed : need < f)
    (hmore : Delimited more) (hlen : j + 1 + byteCount v.render.toList ≤ len) :
    readRecordMembers len (f + 1) depth fields isOpen first seen acc kept c =
      readRecordMembers len f depth fields isOpen false (gatherField fields o (seen, acc, kept) (k, v)).1
        (gatherField fields o (seen, acc, kept) (k, v)).2.1 (gatherField fields o (seen, acc, kept) (k, v)).2.2
        ⟨more, j + 1 + byteCount v.render.toList⟩ := by
  have hcontains : seen.contains k = false := by simpa using hseen
  simp only [readRecordMembers, hkey, ok_bind]
  unfold MemberReads at hm
  cases hfs : fieldShape? fields k with
  | some s =>
    rw [hfs] at hm
    have hread : readShape len f depth s ⟨v.render.toList ++ more, j + 1⟩ =
        .ok (o k v, ⟨more, j + 1 + byteCount v.render.toList⟩) := hm f more (j + 1) hneed hmore hlen
    -- the reader and `gatherField` each match on what the field reads as
    cases ho : o k v <;>
      simp only [hcontains, Bool.false_eq_true, if_false, readColon_colon, ok_bind, hread, gatherField, hfs, ho]
  | none =>
    rw [hfs] at hm
    obtain ⟨hopen, hcanon, hdepth, hsize⟩ := hm
    have hread := readValue_render len true hcanon hdepth (n := f) (by omega) hmore hlen
    simp only [readColon_colon, ok_bind, hopen, if_true, hread, gatherField, hfs]

/-- The members of an object from a given one on read into a record, up to the closing brace. -/
theorem readRecordMembers_text :
    ∀ (ms : List (String × Value)) (first : Bool) (fuel : Nat) (seen : List String)
      (acc kept : List (String × Value)) (i : Nat) (rest : List Char),
      Members.Sorted ms → (∀ m ∈ ms, MemberReads len depth need fields isOpen o m) → (∀ m ∈ ms, m.1 ∉ seen) →
      need + (membersText first ms).length < fuel → i + byteCount (membersText first ms) ≤ len →
      readRecordMembers len fuel depth fields isOpen first seen acc kept
          ⟨membersText first ms ++ '\x7d' :: rest, i⟩ =
        .ok (ms.foldl (gatherField fields o) (seen, acc, kept),
          ⟨'\x7d' :: rest, i + byteCount (membersText first ms)⟩)
  | [], first, fuel, seen, acc, kept, i, rest, _, _, _, hfuel, _ => by
    obtain ⟨f, rfl⟩ : ∃ f, fuel = f + 1 := ⟨fuel - 1, by omega⟩
    have hnil : membersText first [] = [] := by cases first <;> rfl
    rw [hnil]
    simp [readRecordMembers, nextKey_close, skipBlank_of_head (c := '\x7d') rfl]
  | (k, v) :: ms, first, fuel, seen, acc, kept, i, rest, hsorted, hreads, hseen, hfuel, hlen => by
    obtain ⟨f, rfl⟩ : ∃ f, fuel = f + 1 := ⟨fuel - 1, by omega⟩
    obtain ⟨hlt, hms⟩ := Members.sorted_cons.mp hsorted
    have hsize : (',' : Char).utf8Size = 1 ∧ ('"' : Char).utf8Size = 1 ∧ (':' : Char).utf8Size = 1 :=
      ⟨rfl, rfl, rfl⟩
    -- the key and the colon take `1 + byteCount (quotedBody k) + 1` bytes, and the comma before
    -- a later member one more
    obtain ⟨j, hkey, hj, hshorter⟩ : ∃ j, nextKey len first
        ⟨membersText first ((k, v) :: ms) ++ '\x7d' :: rest, i⟩ =
          .ok (some (k, ⟨':' :: (v.render.toList ++ (commaMembers ms ++ '\x7d' :: rest)), j⟩)) ∧
        j + 1 + byteCount v.render.toList + byteCount (commaMembers ms) =
          i + byteCount (membersText first ((k, v) :: ms)) ∧
        (commaMembers ms).length < (membersText first ((k, v) :: ms)).length := by
      cases first with
      | true =>
        simp only [membersText_true, toList_renderMembers_cons, memberText, toList_jsonQuote, byteCount_cons,
          byteCount_append, hsize, List.length_append, List.length_cons] at hlen ⊢
        refine ⟨i + 1 + byteCount (quotedBody k), ?_, by omega, by omega⟩
        simp only [List.cons_append, List.append_assoc]
        exact nextKey_first len k _ i (by omega)
      | false =>
        simp only [membersText_false, commaMembers_cons, memberText, toList_jsonQuote, byteCount_cons,
          byteCount_append, hsize, List.length_append, List.length_cons] at hlen ⊢
        refine ⟨i + 2 + byteCount (quotedBody k), ?_, by omega, by omega⟩
        simp only [List.cons_append, List.append_assoc]
        exact nextKey_comma len k _ i (by omega)
    have hseen' : ∀ m ∈ ms, m.1 ∉ (gatherField fields o (seen, acc, kept) (k, v)).1 := by
      intro m hm hmem
      rcases mem_gatherField_seen hmem with heq | hin
      · have hless := hlt m hm
        rw [← heq] at hless
        exact String.lt_irrefl _ hless
      · exact hseen m (List.mem_cons_of_mem _ hm) hin
    rw [readRecordMembers_step hkey (hreads (k, v) List.mem_cons_self)
      (hseen (k, v) List.mem_cons_self) (by omega) (delimited_commaMembers ms rest) (by omega), List.foldl_cons]
    -- the later members are read from what the first one gathered
    generalize gatherField fields o (seen, acc, kept) (k, v) = st at hseen' ⊢
    obtain ⟨seen', acc', kept'⟩ := st
    have hmore := readRecordMembers_text ms false f seen' acc' kept' (j + 1 + byteCount v.render.toList) rest
      hms (fun m hm => hreads m (List.mem_cons_of_mem _ hm)) hseen' (by rw [membersText_false]; omega)
      (by rw [membersText_false]; omega)
    rw [membersText_false] at hmore
    rw [hmore, hj]

/-- A record shape reads an object whose members it reads, one bracket deeper, when no required
field is missing and the members it kept read again into `members`. -/
theorem shapeReads_record {name : String} {ms members : List (String × Value)} (hdepth : 1 < depth)
    (hsorted : Members.Sorted ms) (hreads : ∀ m ∈ ms, MemberReads len (depth - 1) need fields isOpen o m)
    (hmissing : firstMissing fields (ms.foldl (gatherField fields o) ([], [], [])).1 = none)
    (hreread : addReread .buffered (ms.foldl (gatherField fields o) ([], [], [])).2.2.reverse
      (ms.foldl (gatherField fields o) ([], [], [])).2.1 = .ok members) :
    ShapeReads len depth (need + (Value.obj ms).render.toList.length) (.record name fields isOpen) (.obj ms)
      (some (.obj members)) := by
  intro fuel rest i hfuel hrest hlen
  obtain ⟨f, rfl⟩ : ∃ f, fuel = f + 1 := ⟨fuel - 1, by omega⟩
  have hsize : ('\x7b' : Char).utf8Size = 1 ∧ ('\x7d' : Char).utf8Size = 1 := ⟨rfl, rfl⟩
  rw [toList_render_obj] at hfuel hlen ⊢
  simp only [List.length_cons, List.length_append, List.length_nil, byteCount_cons, byteCount_append,
    byteCount_nil, hsize] at hfuel hlen ⊢
  have hmembers := readRecordMembers_text ms true f [] [] [] (i + 1) rest hsorted hreads
    (fun _ _ hm => nomatch hm) (by rw [membersText_true]; omega) (by rw [membersText_true]; omega)
  rw [membersText_true] at hmembers
  generalize ms.foldl (gatherField fields o) ([], [], []) = st at hmembers hmissing hreread
  obtain ⟨seen, acc, kept⟩ := st
  simp only [List.cons_append, List.append_assoc, List.nil_append]
  simp only [readShape, skipBlank_of_head (c := '\x7b') rfl, if_neg (Nat.not_le.mpr hdepth), hmembers, ok_bind,
    hmissing, hreread, closeObject_close]
  simp [Nat.add_assoc]

/-- What reading a record gathers from its members: the keys of the known fields, last one first;
the known fields that read as present, stored by key; and the other members, last one first. -/
theorem foldl_gatherField (ms : List (String × Value)) (seen : List String) (acc kept : List (String × Value)) :
    ms.foldl (gatherField fields o) (seen, acc, kept) =
      (((ms.filter fun m => (fieldShape? fields m.1).isSome).map (·.1)).reverse ++ seen,
        (ms.filterMap fun m => ((if (fieldShape? fields m.1).isSome then o m.1 m.2 else none).map (m.1, ·))).foldl
          (fun acc kv => Members.insert kv.1 kv.2 acc) acc,
        (ms.filter fun m => (fieldShape? fields m.1).isNone).reverse ++ kept) := by
  induction ms generalizing seen acc kept with
  | nil => rfl
  | cons m ms ih =>
    obtain ⟨k, v⟩ := m
    rw [List.foldl_cons]
    cases hfs : fieldShape? fields k with
    | some s =>
      cases ho : o k v with
      | none => simp [gatherField, hfs, ho, ih]
      | some y => simp [gatherField, hfs, ho, ih]
    | none => simp [gatherField, hfs, ih]

/-- The members an open record holds once its kept members are added back: under the key of a
known field what that field read as, under any other key the member as it was. -/
theorem find?_recordMembers {ms : List (String × Value)} (hs : Members.Sorted ms) (j : String) :
    Members.find? j ((ms.filter fun m => (fieldShape? fields m.1).isNone).foldl
        (fun acc kv => Members.insert kv.1 kv.2 acc)
        ((ms.filterMap fun m => ((if (fieldShape? fields m.1).isSome then o m.1 m.2 else none).map (m.1, ·))).foldl
          (fun acc kv => Members.insert kv.1 kv.2 acc) [])) =
      if (fieldShape? fields j).isSome then (Members.find? j ms).bind (o j) else Members.find? j ms := by
  let known (k : String) (v : Value) : Option Value := if (fieldShape? fields k).isSome then o k v else none
  rw [Members.find?_foldl_insert, ← Members.find?_ofList, Members.ofList_of_sorted (hs.filter _),
    ← Members.ofList, Members.ofList_of_sorted (hs.filterMap_key known), Members.find?_filterMap_key hs known]
  rw [Members.find?_filter j (fun k => (fieldShape? fields k).isNone)]
  cases hj : fieldShape? fields j with
  | none => cases Members.find? j ms <;> simp [known, hj]
  | some s => simp [known, hj]

end Shapes

end UaFlow.Json
