import UaFlow.Proofs.Json.Members
import UaFlow.Proofs.Json.Tokens
/-!
# Reading the compact text of a value

The compact text of a value (`Value.render`) reads back as the value, whenever the value is one
that writer and reader agree on (`Value.Canonical`): its numbers are in the form the reader keeps,
and each object holds its keys in increasing order, the first of them not the key that marks a
number. Its brackets must also nest less deep than the reader allows (`Value.depth`).

The reader runs on fuel, one unit per value, item or member it starts, and the fuel it is given
always exceeds the length of the text. So the proof is an induction on the fuel, carrying three
statements at once: a value, the items of an array after a given point, and the members of an
object after its first one each read back as written (`readsValues_succ`, `readsItems_succ`,
`readsMembers_succ`). Read again as a buffered member, a canonical value stands for itself
(`Value.rereadBy_canonical`).
-/

namespace UaFlow.Json

open UaFlow.Text UaFlow.Ua

/-! ## Depth and canonical values -/

mutual

/-- How deep the brackets of a value nest. -/
def Value.depth : Value → Nat
  | .arr items => itemsDepth items + 1
  | .obj members => membersDepth members + 1
  | _ => 0

/-- The deepest nesting among items. -/
def itemsDepth : List Value → Nat
  | [] => 0
  | v :: rest => max v.depth (itemsDepth rest)

/-- The deepest nesting among the values of members. -/
def membersDepth : List (String × Value) → Nat
  | [] => 0
  | (_, v) :: rest => max v.depth (membersDepth rest)

end

mutual

/-- A value that the compact writer and the reader agree on: its numbers are in the form the
reader keeps, and each object holds its keys in increasing order, the first of them not the key
that marks a number. -/
def Value.Canonical : Value → Prop
  | .num n => ∃ lit : KeptNumber, n.text = lit.text
  | .arr items => ItemsCanonical items
  | .obj members =>
    Members.Sorted members ∧ (∀ p ∈ members.head?, p.1 ≠ numberMarker) ∧ MembersCanonical members
  | _ => True

/-- Items that are all canonical. -/
def ItemsCanonical : List Value → Prop
  | [] => True
  | v :: rest => v.Canonical ∧ ItemsCanonical rest

/-- Members whose values are all canonical. -/
def MembersCanonical : List (String × Value) → Prop
  | [] => True
  | (_, v) :: rest => v.Canonical ∧ MembersCanonical rest

end

theorem itemsCanonical_iff {items : List Value} : ItemsCanonical items ↔ ∀ y ∈ items, y.Canonical := by
  induction items with
  | nil => simp [ItemsCanonical]
  | cons v vs ih => simp [ItemsCanonical, ih]

theorem membersCanonical_iff {ms : List (String × Value)} : MembersCanonical ms ↔ ∀ p ∈ ms, p.2.Canonical := by
  induction ms with
  | nil => simp [MembersCanonical]
  | cons m ms ih =>
    obtain ⟨k, v⟩ := m
    simp [MembersCanonical, ih]

theorem depth_le_itemsDepth {y : Value} {items : List Value} (h : y ∈ items) : y.depth ≤ itemsDepth items := by
  induction items with
  | nil => cases h
  | cons v vs ih =>
    rw [itemsDepth]
    rcases List.mem_cons.mp h with rfl | h
    · exact Nat.le_max_left _ _
    · exact Nat.le_trans (ih h) (Nat.le_max_right _ _)

theorem depth_le_membersDepth {p : String × Value} {ms : List (String × Value)} (h : p ∈ ms) :
    p.2.depth ≤ membersDepth ms := by
  induction ms with
  | nil => cases h
  | cons m ms ih =>
    obtain ⟨k, v⟩ := m
    rw [membersDepth]
    rcases List.mem_cons.mp h with rfl | h
    · exact Nat.le_max_left _ _
    · exact Nat.le_trans (ih h) (Nat.le_max_right _ _)

/-! ## The compact text -/

/-- Items after the first, each after a comma. -/
def commaItems (items : List Value) : List Char :=
  items.flatMap fun v => ',' :: v.render.toList

/-- The text of a member: its quoted key, a colon and its value. -/
def memberText (k : String) (v : Value) : List Char :=
  (jsonQuote k).toList ++ ':' :: v.render.toList

/-- Members after the first, each after a comma. -/
def commaMembers (ms : List (String × Value)) : List Char :=
  ms.flatMap fun m => ',' :: memberText m.1 m.2

/-- The items of an array from the first one on, or from a later one on. -/
def itemsText (first : Bool) (items : List Value) : List Char :=
  if first then (renderItems items).toList else commaItems items

@[simp] theorem itemsText_true (items : List Value) : itemsText true items = (renderItems items).toList := rfl

@[simp] theorem itemsText_false (items : List Value) : itemsText false items = commaItems items := rfl

@[simp] theorem commaItems_nil : commaItems [] = [] := rfl

theorem commaItems_cons (v : Value) (vs : List Value) :
    commaItems (v :: vs) = ',' :: (v.render.toList ++ commaItems vs) := rfl

@[simp] theorem commaMembers_nil : commaMembers [] = [] := rfl

theorem commaMembers_cons (k : String) (v : Value) (ms : List (String × Value)) :
    commaMembers ((k, v) :: ms) = ',' :: (memberText k v ++ commaMembers ms) := rfl

theorem toList_renderItems_cons (v : Value) (vs : List Value) :
    (renderItems (v :: vs)).toList = v.render.toList ++ commaItems vs := by
  induction vs generalizing v with
  | nil => simp [renderItems]
  | cons w ws ih =>
    rw [renderItems, String.toList_append, String.toList_append, ih, commaItems_cons]
    · simp
    · intro h
      cases h

theorem toList_renderMembers_cons (k : String) (v : Value) (ms : List (String × Value)) :
    (renderMembers ((k, v) :: ms)).toList = memberText k v ++ commaMembers ms := by
  induction ms generalizing k v with
  | nil => simp [renderMembers, memberText]
  | cons m ms ih =>
    obtain ⟨k', v'⟩ := m
    rw [renderMembers, String.toList_append, String.toList_append, ih, commaMembers_cons]
    · simp [memberText]
    · intro h
      cases h

theorem toList_render_arr (items : List Value) :
    (Value.arr items).render.toList = '[' :: ((renderItems items).toList ++ [']']) := by
  rw [render_arr, String.toList_append, String.toList_append]
  rfl

theorem toList_render_obj (ms : List (String × Value)) :
    (Value.obj ms).render.toList = '\x7b' :: ((renderMembers ms).toList ++ ['\x7d']) := by
  simp only [Value.render, String.toList_append]
  rfl

theorem length_render_lt_of_mem_items {y : Value} {items : List Value} (h : y ∈ items) :
    y.render.toList.length < (Value.arr items).render.toList.length := by
  rw [toList_render_arr]
  induction items with
  | nil => cases h
  | cons v vs ih =>
    rw [toList_renderItems_cons]
    rcases List.mem_cons.mp h with rfl | h
    · simp only [List.length_cons, List.length_append]
      omega
    · have hlt := ih h
      cases vs with
      | nil => cases h
      | cons w ws =>
        rw [toList_renderItems_cons] at hlt
        simp only [commaItems_cons, List.length_cons, List.length_append] at hlt ⊢
        omega

theorem length_render_lt_of_mem_members {p : String × Value} {ms : List (String × Value)} (h : p ∈ ms) :
    p.2.render.toList.length < (Value.obj ms).render.toList.length := by
  rw [toList_render_obj]
  induction ms with
  | nil => cases h
  | cons m ms ih =>
    obtain ⟨k, v⟩ := m
    rw [toList_renderMembers_cons]
    rcases List.mem_cons.mp h with rfl | h
    · simp only [memberText, List.length_cons, List.length_append]
      omega
    · have hlt := ih h
      cases ms with
      | nil => cases h
      | cons m' ms' =>
        obtain ⟨k', v'⟩ := m'
        rw [toList_renderMembers_cons] at hlt
        simp only [commaMembers_cons, memberText, List.length_cons, List.length_append] at hlt ⊢
        omega

/-! ## What the text of a value starts with -/

theorem isTokenBlank_of_isDigit {d : Char} (hd : d.isDigit = true) : isTokenBlank d = false := by
  simp only [isTokenBlank, Bool.or_eq_false_iff, beq_eq_false_iff_ne]
  refine ⟨⟨⟨?_, ?_⟩, ?_⟩, ?_⟩ <;> (rintro rfl; exact absurd hd (by decide))

/-- The text of a canonical value starts with a character that is no blank and no comma or
closing bracket. -/
theorem render_head {v : Value} (hv : v.Canonical) :
    ∃ c cs, v.render.toList = c :: cs ∧ isTokenBlank c = false ∧ c ≠ ']' ∧ c ≠ ',' ∧ c ≠ '\x7d' := by
  cases v with
  | null => exact ⟨'n', ['u', 'l', 'l'], by simp [Value.render], rfl, by decide, by decide, by decide⟩
  | bool bv =>
    cases bv with
    | false => exact ⟨'f', ['a', 'l', 's', 'e'], by simp [Value.render], rfl, by decide, by decide, by decide⟩
    | true => exact ⟨'t', ['r', 'u', 'e'], by simp [Value.render], rfl, by decide, by decide, by decide⟩
  | num x =>
    obtain ⟨lit, hx⟩ := hv
    obtain ⟨d, ds, hds, hd⟩ := lit.whole.exists_cons
    have hrender : (Value.num x).render.toList = lit.sign.chars ++ d :: (ds ++ lit.tailChars) := by
      simp [Value.render, hx, DecimalLiteral.text, hds]
    have hne : d ≠ ']' ∧ d ≠ ',' ∧ d ≠ '\x7d' ∧ isTokenBlank d = false := by
      refine ⟨?_, ?_, ?_, isTokenBlank_of_isDigit hd⟩ <;> (rintro rfl; exact absurd hd (by decide))
    cases hs : lit.sign with
    | none => exact ⟨d, _, by rw [hrender, hs]; rfl, hne.2.2.2, hne.1, hne.2.1, hne.2.2.1⟩
    | plus => exact absurd hs lit.sign_ne_plus
    | minus => exact ⟨'-', _, by rw [hrender, hs]; rfl, rfl, by decide, by decide, by decide⟩
  | str s => exact ⟨'"', _, by rw [render_str, toList_jsonQuote], rfl, by decide, by decide, by decide⟩
  | arr items => exact ⟨'[', _, toList_render_arr items, rfl, by decide, by decide, by decide⟩
  | obj ms => exact ⟨'\x7b', _, toList_render_obj ms, rfl, by decide, by decide, by decide⟩

/-! ## Separators -/

theorem skipBlank_of_head {c : Char} (h : isTokenBlank c = false) (r : List Char) (i : Nat) :
    Cursor.skipBlank ⟨c :: r, i⟩ = ⟨c :: r, i⟩ :=
  skipBlankFrom_of_not_blank h r i

theorem nextItem_close (len : Nat) (first : Bool) (rest : List Char) (i : Nat) :
    nextItem len first ⟨']' :: rest, i⟩ = .ok none := by
  simp [nextItem, skipBlank_of_head (c := ']') rfl]

theorem nextItem_first (len : Nat) {c : Char} (hc : isTokenBlank c = false) (hclose : c ≠ ']')
    (r : List Char) (i : Nat) : nextItem len true ⟨c :: r, i⟩ = .ok (some ⟨c :: r, i⟩) := by
  simp only [nextItem, skipBlank_of_head hc, if_true]

theorem nextItem_comma (len : Nat) {c : Char} (hc : isTokenBlank c = false) (hclose : c ≠ ']')
    (r : List Char) (i : Nat) : nextItem len false ⟨',' :: c :: r, i⟩ = .ok (some ⟨c :: r, i + 1⟩) := by
  simp [nextItem, skipBlank_of_head (c := ',') rfl, skipBlankFrom_of_not_blank hc, hclose]

theorem nextKey_close (len : Nat) (first : Bool) (rest : List Char) (i : Nat) :
    nextKey len first ⟨'\x7d' :: rest, i⟩ = .ok none := by
  simp [nextKey, skipBlank_of_head (c := '\x7d') rfl]

theorem nextKey_first (len : Nat) (k : String) (r : List Char) (i : Nat)
    (hlen : i + 1 + byteCount (quotedBody k) ≤ len) :
    nextKey len true ⟨'"' :: (quotedBody k ++ r), i⟩ =
      .ok (some (k, ⟨r, i + 1 + byteCount (quotedBody k)⟩)) := by
  simp [nextKey, skipBlank_of_head (c := '"') rfl, readString_quoted len k r (i + 1) hlen, Except.map]

theorem nextKey_comma (len : Nat) (k : String) (r : List Char) (i : Nat)
    (hlen : i + 2 + byteCount (quotedBody k) ≤ len) :
    nextKey len false ⟨',' :: '"' :: (quotedBody k ++ r), i⟩ =
      .ok (some (k, ⟨r, i + 2 + byteCount (quotedBody k)⟩)) := by
  simp [nextKey, skipBlank_of_head (c := ',') rfl, skipBlankFrom_of_not_blank (c := '"') rfl,
    readString_quoted len k r (i + 1 + 1) hlen, Except.map]

theorem readColon_colon (len : Nat) (r : List Char) (i : Nat) : readColon len ⟨':' :: r, i⟩ = .ok ⟨r, i + 1⟩ := by
  simp [readColon, skipBlank_of_head (c := ':') rfl]

theorem closeList_close (len : Nat) (r : List Char) (i : Nat) : closeList len ⟨']' :: r, i⟩ = .ok ⟨r, i + 1⟩ := by
  simp [closeList, skipBlank_of_head (c := ']') rfl]

theorem closeObject_close (len : Nat) (r : List Char) (i : Nat) :
    closeObject len ⟨'\x7d' :: r, i⟩ = .ok ⟨r, i + 1⟩ := by
  simp [closeObject, skipBlank_of_head (c := '\x7d') rfl]

/-! ## Reading one scalar -/

theorem readValue_null (len : Nat) (b : Bool) (f depth : Nat) (rest : List Char) (i : Nat) :
    readValue len b (f + 1) depth ⟨'n' :: (['u', 'l', 'l'] ++ rest), i⟩ = .ok (.null, ⟨rest, i + 4⟩) := by
  simp only [readValue, skipBlank_of_head (c := 'n') rfl, readIdent_append]
  rfl

theorem readValue_true (len : Nat) (b : Bool) (f depth : Nat) (rest : List Char) (i : Nat) :
    readValue len b (f + 1) depth ⟨'t' :: (['r', 'u', 'e'] ++ rest), i⟩ =
      .ok (.bool true, ⟨rest, i + 4⟩) := by
  simp only [readValue, skipBlank_of_head (c := 't') rfl, readIdent_append]
  rfl

theorem readValue_false (len : Nat) (b : Bool) (f depth : Nat) (rest : List Char) (i : Nat) :
    readValue len b (f + 1) depth ⟨'f' :: (['a', 'l', 's', 'e'] ++ rest), i⟩ =
      .ok (.bool false, ⟨rest, i + 5⟩) := by
  simp only [readValue, skipBlank_of_head (c := 'f') rfl, readIdent_append]
  rfl

theorem readValue_str (len : Nat) (b : Bool) (f depth : Nat) (s : String) (rest : List Char) (i : Nat)
    (hlen : i + 1 + byteCount (quotedBody s) ≤ len) :
    readValue len b (f + 1) depth ⟨'"' :: (quotedBody s ++ rest), i⟩ =
      .ok (.str s, ⟨rest, i + 1 + byteCount (quotedBody s)⟩) := by
  simp [readValue, skipBlank_of_head (c := '"') rfl, readString_quoted len s rest (i + 1) hlen, Except.map]

/-- A value that starts with a digit is read as a number. -/
theorem readValue_digit (len : Nat) (b : Bool) (f depth : Nat) {d : Char} (hd : d.isDigit = true)
    {r : List Char} {i : Nat} :
    readValue len b (f + 1) depth ⟨d :: r, i⟩ =
      (readNumberText len false ⟨d :: r, i⟩).map fun p => (.num ⟨p.1⟩, p.2) := by
  simp only [readValue, skipBlank_of_head (isTokenBlank_of_isDigit hd)]
  -- the other heads are letters, signs and brackets, none of them a digit
  split <;> simp_all

/-- A kept number is read as the number with its text. -/
theorem readValue_num (len : Nat) (b : Bool) (f depth : Nat) (lit : KeptNumber) {rest : List Char}
    (hrest : Delimited rest) (i : Nat) :
    readValue len b (f + 1) depth ⟨lit.text.toList ++ rest, i⟩ =
      .ok (.num ⟨lit.text⟩, ⟨rest, i + lit.text.length⟩) := by
  have htext : lit.text.toList = lit.sign.chars ++ (lit.whole.chars ++ lit.tailChars) := by
    rw [DecimalLiteral.text, String.toList_ofList]
  have hlength : lit.text.length = lit.sign.chars.length + (lit.whole.chars ++ lit.tailChars).length := by
    rw [← String.length_toList, htext, List.length_append]
  cases hs : lit.sign with
  | plus => exact absurd hs lit.sign_ne_plus
  | minus =>
    have hread := readNumberText_kept len lit true (by rw [hs]; rfl) hrest (i + 1)
    rw [htext, hs, hlength, hs]
    simp only [SignMark.chars, List.cons_append, List.nil_append, List.append_assoc] at hread ⊢
    simp only [readValue, skipBlank_of_head (c := '-') rfl, hread, Except.map, List.length_singleton,
      Nat.add_assoc]
  | none =>
    obtain ⟨d, ds, hds, hd⟩ := lit.whole.exists_cons
    have hread := readNumberText_kept len lit false (by rw [hs]; rfl) hrest i
    rw [htext, hs, hlength, hs]
    simp only [SignMark.chars, List.nil_append, hds, List.cons_append] at hread ⊢
    rw [readValue_digit len b f depth hd, hread]
    simp [Except.map]

/-! ## Reading one array or object, given its parts -/

theorem readValue_arr (len : Nat) (b : Bool) (f : Nat) {depth : Nat} (hdepth : 1 < depth)
    (items : List Value) (rest : List Char) (i j : Nat)
    (hitems : readItems len b f (depth - 1) true [] ⟨(renderItems items).toList ++ ']' :: rest, i + 1⟩ =
      .ok (items, ⟨']' :: rest, j⟩)) :
    readValue len b (f + 1) depth ⟨(Value.arr items).render.toList ++ rest, i⟩ =
      .ok (.arr items, ⟨rest, j + 1⟩) := by
  rw [toList_render_arr]
  simp only [List.cons_append, List.append_assoc, List.nil_append]
  simp only [readValue, skipBlank_of_head (c := '[') rfl, if_neg (Nat.not_le.mpr hdepth), hitems,
    ok_bind, closeList_close]

theorem readValue_obj_nil (len : Nat) (b : Bool) (f : Nat) {depth : Nat} (hdepth : 1 < depth)
    (rest : List Char) (i : Nat) :
    readValue len b (f + 1) depth ⟨(Value.obj []).render.toList ++ rest, i⟩ =
      .ok (.obj [], ⟨rest, i + 2⟩) := by
  rw [toList_render_obj]
  simp only [renderMembers, List.cons_append, String.toList_empty, List.nil_append]
  simp only [readValue, skipBlank_of_head (c := '\x7b') rfl, if_neg (Nat.not_le.mpr hdepth), nextKey_close,
    ok_bind, pure_bind, skipBlank_of_head (c := '\x7d') rfl, closeObject_close]

theorem readValue_obj_cons (len : Nat) (b : Bool) (f : Nat) {depth : Nat} (hdepth : 1 < depth)
    {k : String} (hk : k ≠ numberMarker) (x : Value) (ms : List (String × Value)) (rest : List Char)
    (i : Nat) (hlen : i + 2 + byteCount (quotedBody k) ≤ len) {members : List (String × Value)}
    {j j' : Nat}
    (hx : readValue len b f (depth - 1)
      ⟨x.render.toList ++ (commaMembers ms ++ '\x7d' :: rest), i + byteCount (quotedBody k) + 3⟩ =
        .ok (x, ⟨commaMembers ms ++ '\x7d' :: rest, j⟩))
    (hms : readMembers len b f (depth - 1) false (if b then [(k, x)] else Members.insert k x [])
      ⟨commaMembers ms ++ '\x7d' :: rest, j⟩ = .ok (members, ⟨'\x7d' :: rest, j'⟩)) :
    readValue len b (f + 1) depth ⟨(Value.obj ((k, x) :: ms)).render.toList ++ rest, i⟩ =
      .ok (.obj (if b then members.reverse else members), ⟨rest, j' + 1⟩) := by
  rw [toList_render_obj, toList_renderMembers_cons, memberText, toList_jsonQuote]
  simp only [List.cons_append, List.append_assoc, List.nil_append]
  have hkey := nextKey_first len k (':' :: (x.render.toList ++ (commaMembers ms ++ '\x7d' :: rest))) (i + 1)
    (by omega)
  have hidx : i + 1 + 1 + byteCount (quotedBody k) + 1 = i + byteCount (quotedBody k) + 3 := by omega
  simp only [readValue, skipBlank_of_head (c := '\x7b') rfl, if_neg (Nat.not_le.mpr hdepth), hkey,
    ok_bind, readColon_colon, hk, false_and, if_false, hidx, hx, hms, pure_bind, closeObject_close]

/-! ## Where items and members start -/

theorem nextItem_value (len : Nat) {v : Value} (hv : v.Canonical) (more : List Char) (i : Nat) :
    nextItem len true ⟨v.render.toList ++ more, i⟩ = .ok (some ⟨v.render.toList ++ more, i⟩) := by
  obtain ⟨c, cs, hcs, hblank, hclose, -, -⟩ := render_head hv
  rw [hcs, List.cons_append]
  exact nextItem_first len hblank hclose _ i

theorem nextItem_comma_value (len : Nat) {v : Value} (hv : v.Canonical) (more : List Char) (i : Nat) :
    nextItem len false ⟨',' :: (v.render.toList ++ more), i⟩ =
      .ok (some ⟨v.render.toList ++ more, i + 1⟩) := by
  obtain ⟨c, cs, hcs, hblank, hclose, -, -⟩ := render_head hv
  rw [hcs, List.cons_append]
  exact nextItem_comma len hblank hclose _ i

theorem delimited_commaItems (vs : List Value) (rest : List Char) : Delimited (commaItems vs ++ ']' :: rest) := by
  cases vs with
  | nil => simp [Delimited]
  | cons v vs => simp [Delimited, commaItems_cons]

theorem delimited_commaMembers (ms : List (String × Value)) (rest : List Char) :
    Delimited (commaMembers ms ++ '\x7d' :: rest) := by
  cases ms with
  | nil => simp [Delimited]
  | cons m ms =>
    obtain ⟨k, x⟩ := m
    simp [Delimited, commaMembers_cons]

/-! ## Reading the text back, by induction on the fuel -/

/-- The members a reader has gathered after members `ms`, starting from `acc`: buffered members
last one first, the others by key. -/
def gathered (b : Bool) (ms acc : List (String × Value)) : List (String × Value) :=
  if b then ms.reverse ++ acc else ms.foldl (fun a m => Members.insert m.1 m.2 a) acc

theorem gathered_cons (b : Bool) (k : String) (x : Value) (ms acc : List (String × Value)) :
    gathered b ((k, x) :: ms) acc = gathered b ms (if b then (k, x) :: acc else Members.insert k x acc) := by
  cases b <;> simp [gathered]

section Reading

variable (len : Nat)

/-- With fuel `n`, a canonical value whose text is no longer than `n` reads back as itself,
buffered or not, and reading stops right after it. -/
def ReadsValues (n : Nat) : Prop :=
  ∀ (b : Bool) (v : Value) (depth : Nat) (rest : List Char) (i : Nat), v.Canonical → v.depth < depth →
    v.render.toList.length ≤ n → Delimited rest → i + byteCount v.render.toList ≤ len →
    readValue len b n depth ⟨v.render.toList ++ rest, i⟩ = .ok (v, ⟨rest, i + byteCount v.render.toList⟩)

/-- With fuel `n`, the items of an array from a given one on read back, up to the closing
bracket. -/
def ReadsItems (n : Nat) : Prop :=
  ∀ (b first : Bool) (items acc : List Value) (depth : Nat) (rest : List Char) (i : Nat),
    ItemsCanonical items → itemsDepth items < depth → (itemsText first items).length < n →
    i + byteCount (itemsText first items) ≤ len →
    readItems len b n depth first acc ⟨itemsText first items ++ ']' :: rest, i⟩ =
      .ok (acc.reverse ++ items, ⟨']' :: rest, i + byteCount (itemsText first items)⟩)

/-- With fuel `n`, the members of an object after its first one read back, up to the closing
brace. -/
def ReadsMembers (n : Nat) : Prop :=
  ∀ (b : Bool) (ms acc : List (String × Value)) (depth : Nat) (rest : List Char) (i : Nat),
    MembersCanonical ms → membersDepth ms < depth → (commaMembers ms).length < n →
    i + byteCount (commaMembers ms) ≤ len →
    readMembers len b n depth false acc ⟨commaMembers ms ++ '\x7d' :: rest, i⟩ =
      .ok (gathered b ms acc, ⟨'\x7d' :: rest, i + byteCount (commaMembers ms)⟩)

variable {len}

theorem readsItems_succ {n : Nat} (hv : ReadsValues len n) (hi : ReadsItems len n) :
    ReadsItems len (n + 1) := by
  intro b first items acc depth rest i hcanon hdepth hfuel hlen
  cases items with
  | nil =>
    have hnil : itemsText first [] = [] := by cases first <;> rfl
    rw [hnil]
    simp [readItems, nextItem_close, skipBlank_of_head (c := ']') rfl]
  | cons v vs =>
    obtain ⟨hcv, hcvs⟩ := hcanon
    have hdv : v.depth < depth := by simp only [itemsDepth] at hdepth; omega
    have hdvs : itemsDepth vs < depth := by simp only [itemsDepth] at hdepth; omega
    have hpos : 0 < v.render.toList.length := by
      obtain ⟨c, cs, hcs, -⟩ := render_head hcv
      simp [hcs]
    cases first with
    | true =>
      simp only [itemsText_true, toList_renderItems_cons, List.length_append, byteCount_append]
        at hfuel hlen ⊢
      have hread := hv b v depth (commaItems vs ++ ']' :: rest) i hcv hdv (by omega)
        (delimited_commaItems vs rest) (by omega)
      have hmore := hi b false vs (v :: acc) depth rest (i + byteCount v.render.toList) hcvs hdvs
        (by rw [itemsText_false]; omega) (by rw [itemsText_false]; omega)
      rw [itemsText_false] at hmore
      simp only [readItems, List.append_assoc, nextItem_value len hcv, ok_bind, hread, hmore]
      simp [Nat.add_assoc]
    | false =>
      have hcomma : (',' : Char).utf8Size = 1 := rfl
      simp only [itemsText_false, commaItems_cons, List.length_cons, List.length_append, byteCount_cons,
        byteCount_append, hcomma] at hfuel hlen ⊢
      have hread := hv b v depth (commaItems vs ++ ']' :: rest) (i + 1) hcv hdv (by omega)
        (delimited_commaItems vs rest) (by omega)
      have hmore := hi b false vs (v :: acc) depth rest (i + 1 + byteCount v.render.toList) hcvs hdvs
        (by rw [itemsText_false]; omega) (by rw [itemsText_false]; omega)
      rw [itemsText_false] at hmore
      simp only [readItems, List.cons_append, List.append_assoc, nextItem_comma_value len hcv, ok_bind,
        hread, hmore]
      simp [Nat.add_assoc]

theorem readsMembers_succ {n : Nat} (hv : ReadsValues len n) (hm : ReadsMembers len n) :
    ReadsMembers len (n + 1) := by
  intro b ms acc depth rest i hcanon hdepth hfuel hlen
  cases ms with
  | nil => simp [readMembers, nextKey_close, skipBlank_of_head (c := '\x7d') rfl, gathered]
  | cons m ms =>
    obtain ⟨k, x⟩ := m
    obtain ⟨hcx, hcms⟩ := hcanon
    have hdx : x.depth < depth := by simp only [membersDepth] at hdepth; omega
    have hdms : membersDepth ms < depth := by simp only [membersDepth] at hdepth; omega
    have hsize : (',' : Char).utf8Size = 1 ∧ ('"' : Char).utf8Size = 1 ∧ (':' : Char).utf8Size = 1 :=
      ⟨rfl, rfl, rfl⟩
    simp only [commaMembers_cons, memberText, toList_jsonQuote, List.length_cons, List.length_append,
      byteCount_cons, byteCount_append, hsize] at hfuel hlen ⊢
    have hread := hv b x depth (commaMembers ms ++ '\x7d' :: rest) (i + 2 + byteCount (quotedBody k) + 1)
      hcx hdx (by omega) (delimited_commaMembers ms rest) (by omega)
    have hmore := hm b ms (if b then (k, x) :: acc else Members.insert k x acc) depth rest
      (i + 2 + byteCount (quotedBody k) + 1 + byteCount x.render.toList) hcms hdms (by omega) (by omega)
    have hkey := nextKey_comma len k (':' :: (x.render.toList ++ (commaMembers ms ++ '\x7d' :: rest))) i
      (by omega)
    simp only [readMembers, List.cons_append, List.append_assoc, hkey, ok_bind, readColon_colon, hread,
      hmore, gathered_cons, Except.ok.injEq, Prod.mk.injEq, Cursor.mk.injEq, true_and]
    omega

/-- The members of a canonical object, gathered after its first one, make up the object again. -/
theorem gathered_first (b : Bool) {k : String} {x : Value} {ms : List (String × Value)}
    (hs : Members.Sorted ((k, x) :: ms)) :
    (if b then (gathered b ms (if b then [(k, x)] else Members.insert k x [])).reverse
      else gathered b ms (if b then [(k, x)] else Members.insert k x [])) = (k, x) :: ms := by
  cases b with
  | true => simp [gathered]
  | false =>
    simp only [gathered, Bool.false_eq_true, if_false]
    exact Members.ofList_of_sorted hs

theorem readsValues_succ {n : Nat} (hv : ReadsValues len n) (hi : ReadsItems len n) (hm : ReadsMembers len n) :
    ReadsValues len (n + 1) := by
  intro b v depth rest i hcanon hdepth hfuel hrest hlen
  cases v with
  | null => exact readValue_null len b n depth rest i
  | bool bv =>
    cases bv with
    | false => exact readValue_false len b n depth rest i
    | true => exact readValue_true len b n depth rest i
  | num x =>
    obtain ⟨lit, hx⟩ := hcanon
    obtain ⟨t⟩ := x
    have ht : t = lit.text := hx
    subst ht
    have htext : (Value.num ⟨lit.text⟩).render.toList = lit.text.toList := rfl
    rw [htext, DecimalLiteral.byteCount_text]
    exact readValue_num len b n depth lit hrest i
  | str s =>
    have htext : (Value.str s).render.toList = '"' :: quotedBody s := by rw [render_str, toList_jsonQuote]
    have hquote : ('"' : Char).utf8Size = 1 := rfl
    rw [htext, byteCount_cons, hquote] at hlen ⊢
    rw [← Nat.add_assoc]
    exact readValue_str len b n depth s rest i (by omega)
  | arr items =>
    have hdeep : 1 < depth := by simp only [Value.depth] at hdepth; omega
    have hsize : ('[' : Char).utf8Size = 1 ∧ (']' : Char).utf8Size = 1 := ⟨rfl, rfl⟩
    rw [toList_render_arr] at hfuel hlen
    simp only [List.length_cons, List.length_append, byteCount_cons, byteCount_append, byteCount_nil, hsize]
      at hfuel hlen
    have hitems := hi b true items [] (depth - 1) rest (i + 1) hcanon
      (by simp only [Value.depth] at hdepth; omega) (by rw [itemsText_true]; omega)
      (by rw [itemsText_true]; omega)
    rw [itemsText_true, List.reverse_nil, List.nil_append] at hitems
    rw [readValue_arr len b n hdeep items rest i _ hitems, toList_render_arr]
    simp only [byteCount_cons, byteCount_append, byteCount_nil, hsize]
    congr 3
    omega
  | obj ms =>
    have hdeep : 1 < depth := by simp only [Value.depth] at hdepth; omega
    cases ms with
    | nil => exact readValue_obj_nil len b n hdeep rest i
    | cons m ms =>
      obtain ⟨k, x⟩ := m
      obtain ⟨hsorted, hhead, hcx, hcms⟩ := hcanon
      have hk : k ≠ numberMarker := hhead (k, x) rfl
      have hdx : x.depth < depth - 1 := by simp only [Value.depth, membersDepth] at hdepth; omega
      have hdms : membersDepth ms < depth - 1 := by simp only [Value.depth, membersDepth] at hdepth; omega
      have hsize : ('\x7b' : Char).utf8Size = 1 ∧ ('\x7d' : Char).utf8Size = 1 ∧ ('"' : Char).utf8Size = 1 ∧
          (':' : Char).utf8Size = 1 := ⟨rfl, rfl, rfl, rfl⟩
      rw [toList_render_obj, toList_renderMembers_cons, memberText, toList_jsonQuote] at hfuel hlen
      simp only [List.length_cons, List.length_append, byteCount_cons, byteCount_append, byteCount_nil, hsize]
        at hfuel hlen
      have hread := hv b x (depth - 1) (commaMembers ms ++ '\x7d' :: rest) (i + byteCount (quotedBody k) + 3)
        hcx hdx (by omega) (delimited_commaMembers ms rest) (by omega)
      have hmore := hm b ms (if b then [(k, x)] else Members.insert k x []) (depth - 1) rest
        (i + byteCount (quotedBody k) + 3 + byteCount x.render.toList) hcms hdms (by omega) (by omega)
      rw [readValue_obj_cons len b n hdeep hk x ms rest i (by omega) hread hmore, gathered_first b hsorted,
        toList_render_obj, toList_renderMembers_cons, memberText, toList_jsonQuote]
      simp only [byteCount_cons, byteCount_append, byteCount_nil, hsize]
      congr 3
      omega

theorem reads_zero : ReadsValues len 0 ∧ ReadsItems len 0 ∧ ReadsMembers len 0 := by
  refine ⟨?_, ?_, ?_⟩
  · intro b v depth rest i hcanon _ hfuel
    obtain ⟨c, cs, hcs, -⟩ := render_head hcanon
    simp [hcs] at hfuel
  · intro b first items acc depth rest i _ _ hfuel
    exact absurd hfuel (Nat.not_lt_zero _)
  · intro b ms acc depth rest i _ _ hfuel
    exact absurd hfuel (Nat.not_lt_zero _)

/-- With any fuel, values, items and members read back as written: the induction on the fuel. -/
theorem reads (n : Nat) : ReadsValues len n ∧ ReadsItems len n ∧ ReadsMembers len n := by
  induction n with
  | zero => exact reads_zero
  | succ n ih =>
    obtain ⟨hv, hi, hm⟩ := ih
    exact ⟨readsValues_succ hv hi hm, readsItems_succ hv hi, readsMembers_succ hv hm⟩

end Reading

/-- **The compact text of a canonical value reads back as the value**, buffered or not, given
fuel for its length and room for its brackets; reading stops right after it. -/
theorem readValue_render (len : Nat) (b : Bool) {v : Value} (hv : v.Canonical) {depth n : Nat}
    (hdepth : v.depth < depth) (hfuel : v.render.toList.length ≤ n) {rest : List Char}
    (hrest : Delimited rest) {i : Nat} (hlen : i + byteCount v.render.toList ≤ len) :
    readValue len b n depth ⟨v.render.toList ++ rest, i⟩ = .ok (v, ⟨rest, i + byteCount v.render.toList⟩) :=
  (@reads len n).1 b v depth rest i hv hdepth hfuel hrest hlen

/-! ## Canonical values read again -/

mutual

/-- Read again as a buffered member, a canonical value stands for itself. -/
theorem Value.rereadBy_canonical : ∀ {v : Value}, v.Canonical → v.rereadBy .buffered = .ok v
  | .null, _ => rfl
  | .bool _, _ => rfl
  | .num _, _ => rfl
  | .str _, _ => rfl
  | .arr items, h => by
    rw [Value.rereadBy, rereadItems_canonical h]
    rfl
  | .obj [], _ => rfl
  | .obj ((k, x) :: ms), ⟨hs, hhead, hx, hms⟩ => by
    rw [Value.rereadBy, if_neg (hhead (k, x) rfl), @rereadMembers_canonical ((k, x) :: ms) [] ⟨hx, hms⟩,
      Members.foldl_insert_cons]
    exact congrArg (fun ms => Except.ok (Value.obj ms)) (Members.ofList_of_sorted hs)

theorem rereadItems_canonical : ∀ {items : List Value}, ItemsCanonical items →
    rereadItems .buffered items = .ok items
  | [], _ => rfl
  | v :: vs, ⟨hv, hvs⟩ => by
    rw [rereadItems, Value.rereadBy_canonical hv, ok_bind, rereadItems_canonical hvs, ok_bind]
    rfl

theorem rereadMembers_canonical : ∀ {ms acc : List (String × Value)}, MembersCanonical ms →
    rereadMembers .buffered ms acc = .ok (.obj (ms.foldl (fun acc kv => Members.insert kv.1 kv.2 acc) acc))
  | [], _, _ => rfl
  | (k, x) :: ms, acc, ⟨hx, hms⟩ => by
    rw [rereadMembers, Value.rereadBy_canonical hx, ok_bind, rereadMembers_canonical hms]
    rfl

end

/-- Buffered members with canonical values are added to a record as they are. -/
theorem addReread_canonical {kept : List (String × Value)} (hkept : MembersCanonical kept)
    (acc : List (String × Value)) :
    addReread .buffered kept acc = .ok (kept.foldl (fun acc kv => Members.insert kv.1 kv.2 acc) acc) := by
  induction kept generalizing acc with
  | nil => rfl
  | cons m kept ih =>
    obtain ⟨k, x⟩ := m
    obtain ⟨hx, hkept⟩ := hkept
    rw [addReread, Value.rereadBy_canonical hx, ok_bind, ih hkept]
    rfl

end UaFlow.Json
