import UaFlow.Ua.NodeId
import UaFlow.Proofs.Codec.Base64
import UaFlow.Proofs.Codec.Uuid
import UaFlow.Proofs.Text.Digits
/-!
# Node ids read back

The reader of node ids and their printer are inverse on the node ids the reader can return: a
namespace index of 16 bits, and an identifier that is a number of 32 bits, a text of at least one
character, no line break and a last character that is not blank, a 128-bit guid, or at least one
byte. `NodeId.readable_of_parse?` says the reader returns only such node ids from a trimmed
text; `NodeId.parse?_render` says their text reads back as themselves.
-/

namespace UaFlow.Ua

open UaFlow.Codec UaFlow.Text

/-- The identifiers the reader can return. -/
def Identifier.Readable : Identifier → Prop
  | .numeric n => n < Nat.pow 2 32
  | .text s => s.toList ≠ [] ∧ '\n' ∉ s.toList ∧ ∀ c ∈ s.toList.getLast?, isBlank c = false
  | .guid u => u.value < Uuid.bound
  | .bytes bs => AreBytes bs ∧ bs ≠ []

/-- The node ids the reader can return. -/
def NodeId.Readable (n : NodeId) : Prop :=
  n.namespaceIndex < Nat.pow 2 16 ∧ n.identifier.Readable

/-- The letter that names the kind of an identifier. -/
def Identifier.kind : Identifier → Char
  | .numeric _ => 'i'
  | .text _ => 's'
  | .guid _ => 'g'
  | .bytes _ => 'b'

/-- The text of an identifier after its kind letter and `=`. -/
def Identifier.valueText : Identifier → String
  | .numeric n => toString n
  | .text s => s
  | .guid u => u.hyphenated
  | .bytes bs => encode bs

theorem Identifier.toList_render (i : Identifier) : i.render.toList = i.kind :: '=' :: i.valueText.toList := by
  cases i <;> simp [Identifier.render, Identifier.kind, Identifier.valueText]

theorem Identifier.kind_mem (i : Identifier) : i.kind = 'i' ∨ i.kind = 's' ∨ i.kind = 'g' ∨ i.kind = 'b' := by
  cases i
  · exact .inl rfl
  · exact .inr (.inl rfl)
  · exact .inr (.inr (.inl rfl))
  · exact .inr (.inr (.inr rfl))

/-! ## The value text of a readable identifier -/

theorem encodeBytes_ne_nil {bs : List Nat} (h : bs ≠ []) : encodeBytes bs ≠ [] := by
  match bs, h with
  | [_], _ => simp [encodeBytes]
  | [_, _], _ => simp [encodeBytes]
  | _ :: _ :: _ :: _, _ => simp [encodeBytes]

/-- The value text of a readable identifier has a character, no line break, and a last character
that is not blank. -/
theorem Identifier.valueText_readable {i : Identifier} (h : i.Readable) :
    i.valueText.toList ≠ [] ∧ '\n' ∉ i.valueText.toList ∧
      ∀ c ∈ i.valueText.toList.getLast?, isBlank c = false := by
  -- a visible text of at least one character has all three
  have hvisible {cs : List Char} (hne : cs ≠ []) (hv : IsVisible cs) :
      cs ≠ [] ∧ '\n' ∉ cs ∧ ∀ c ∈ cs.getLast?, isBlank c = false :=
    ⟨hne, fun hn => absurd (hv _ hn).1 (by decide),
      fun c hc => isBlank_of_visible (hv c (List.mem_of_mem_getLast? hc))⟩
  cases i with
  | numeric n =>
    refine ⟨?_, ?_, ?_⟩
    · simp [Identifier.valueText]
    · intro hn
      have hdigit := Nat.isDigit_of_mem_toDigits (b := 10) (by decide) (by decide)
        (by simpa [Identifier.valueText] using hn)
      exact absurd hdigit (by decide)
    · intro c hc
      have hmem : c ∈ Nat.toDigits 10 n := by
        simpa [Identifier.valueText] using List.mem_of_mem_getLast? hc
      exact isBlank_of_isDigit (Nat.isDigit_of_mem_toDigits (by decide) (by decide) hmem)
  | text s => exact h
  | guid u =>
    apply hvisible _ (isVisible_hyphenated u)
    rw [toList_hyphenated]
    simp [hyphenLayout]
  | bytes bs =>
    simp only [Identifier.valueText, encode, String.toList_ofList]
    exact hvisible (encodeBytes_ne_nil h.2) (isVisible_encodeBytes bs)

/-- The value text of a readable identifier reads back, after its kind letter, as it. -/
theorem Identifier.ofText?_valueText {i : Identifier} (h : i.Readable) :
    Identifier.ofText? i.kind (String.ofList i.valueText.toList) = some i := by
  rw [String.ofList_toList]
  cases i with
  | numeric n =>
    have hn : 0 ≤ (n : Int) ∧ (n : Int) ≤ Int.pow 2 32 - 1 := by
      have hlt : n < Nat.pow 2 32 := h
      have hnat : Nat.pow 2 32 = 4294967296 := rfl
      have hint : Int.pow 2 32 = 4294967296 := rfl
      omega
    simp only [Identifier.ofText?, Identifier.kind, Identifier.valueText, Nat.toString_eq_repr,
      Nat.repr_eq_ofList_toDigits, Float.readIntegerIn_toDigits, if_pos hn, Option.map_some]
    rfl
  | text s => rfl
  | guid u => simp [Identifier.ofText?, Identifier.kind, Identifier.valueText, Uuid.parse_hyphenated u h]
  | bytes bs => simp [Identifier.ofText?, Identifier.kind, Identifier.valueText, decode_encode h.1]

theorem readIdentifier?_render {i : Identifier} (h : i.Readable) : readIdentifier? i.render.toList = some i := by
  obtain ⟨hne, hline, -⟩ := Identifier.valueText_readable h
  rw [Identifier.toList_render, readIdentifier?, if_pos ⟨i.kind_mem, hne, hline⟩]
  exact Identifier.ofText?_valueText h

/-! ## Node ids -/

theorem Identifier.kind_ne_n (i : Identifier) : i.kind ≠ 'n' := by
  rcases i.kind_mem with h | h | h | h <;> rw [h] <;> decide

theorem NodeId.toList_render_zero (i : Identifier) : (NodeId.mk 0 i).render.toList = i.render.toList := by
  simp [NodeId.render]

theorem NodeId.toList_render_ne_zero {ns : Nat} (h : ns ≠ 0) (i : Identifier) :
    (NodeId.mk ns i).render.toList = 'n' :: 's' :: '=' :: (Nat.toDigits 10 ns ++ ';' :: i.render.toList) := by
  simp [NodeId.render, h, Nat.toString_eq_repr, Nat.repr_eq_ofList_toDigits]

/-- **Node ids read back.** The text of a node id the reader can return reads as that node id. -/
theorem NodeId.parse?_render {n : NodeId} (h : n.Readable) : NodeId.parse? n.render = some n := by
  obtain ⟨ns, i⟩ := n
  obtain ⟨hns, hi⟩ := h
  have hns : ns < Nat.pow 2 16 := hns
  by_cases h0 : ns = 0
  · -- without a namespace the text starts with the kind letter
    subst h0
    unfold NodeId.parse?
    rw [NodeId.toList_render_zero]
    split
    · rename_i rest heq
      rw [Identifier.toList_render] at heq
      exact absurd (List.cons.inj heq).1 i.kind_ne_n
    · rw [readIdentifier?_render hi]
      rfl
  · have hdigits : (Nat.toDigits 10 ns ++ ';' :: i.render.toList).takeWhile Char.isDigit =
        Nat.toDigits 10 ns := by
      rw [List.takeWhile_append_of_pos (fun c hc => Nat.isDigit_of_mem_toDigits (by decide) (by decide) hc),
        List.takeWhile_cons_of_neg (by decide), List.append_nil]
    have hnamespace : Float.readIntegerIn 0 (Int.pow 2 16 - 1) (String.ofList (Nat.toDigits 10 ns)) =
        some (ns : Int) := by
      have hnat : Nat.pow 2 16 = 65536 := rfl
      have hint : Int.pow 2 16 = 65536 := rfl
      rw [Float.readIntegerIn_toDigits, if_pos (by omega)]
    unfold NodeId.parse?
    rw [NodeId.toList_render_ne_zero h0]
    simp only [hdigits, List.drop_left', Nat.toDigits_ne_nil, if_false, hnamespace,
      readIdentifier?_render hi]
    rfl

/-- The text of a readable node id is its own trim: it starts with a letter and ends with the last
character of its identifier's value. -/
theorem NodeId.trim_render {n : NodeId} (h : n.Readable) : trim n.render = n.render := by
  obtain ⟨ns, i⟩ := n
  obtain ⟨hne, -, hlastv⟩ := Identifier.valueText_readable h.2
  have hsplit : ∃ p ps, (NodeId.mk ns i).render.toList = p :: ps ++ i.valueText.toList ∧
      isBlank p = false := by
    by_cases h0 : ns = 0
    · subst h0
      refine ⟨i.kind, ['='], by rw [NodeId.toList_render_zero, Identifier.toList_render]; rfl, ?_⟩
      rcases i.kind_mem with hk | hk | hk | hk <;> rw [hk] <;> decide
    · refine ⟨'n', 's' :: '=' :: (Nat.toDigits 10 ns ++ ';' :: [i.kind, '=']), ?_, by decide⟩
      rw [NodeId.toList_render_ne_zero h0, Identifier.toList_render]
      simp
  obtain ⟨p, ps, hrender, hp⟩ := hsplit
  apply trim_eq_self
  · intro c hc
    rw [hrender, List.cons_append, List.head?_cons, Option.mem_def, Option.some.injEq] at hc
    rw [← hc]
    exact hp
  · intro c hc
    rw [hrender, Option.mem_def, List.getLast?_append] at hc
    cases hlv : i.valueText.toList.getLast? with
    | none => exact absurd (List.getLast?_eq_none_iff.mp hlv) hne
    | some y =>
      rw [hlv] at hc
      have hyc : y = c := Option.some.inj hc
      rw [← hyc]
      exact hlastv y hlv

/-! ## What the reader returns -/

/-- The last character of a text is the last of any part of it that ends it. -/
theorem getLast?_of_suffix {pre suf : List Char} {c : Char} (h : c ∈ suf.getLast?) :
    c ∈ (pre ++ suf).getLast? := by
  rw [Option.mem_def] at h ⊢
  rw [List.getLast?_append, h]
  rfl

theorem Identifier.readable_of_ofText? {k : Char} {value : List Char} {i : Identifier}
    (hne : value ≠ []) (hline : '\n' ∉ value) (hlast : ∀ c ∈ value.getLast?, isBlank c = false)
    (h : Identifier.ofText? k (String.ofList value) = some i) : i.Readable := by
  unfold Identifier.ofText? at h
  split at h
  · -- a number, within 32 bits
    obtain ⟨m, hm, rfl⟩ := Option.map_eq_some_iff.mp h
    have hbounds := Float.bounds_of_readIntegerIn hm
    have hint : Int.pow 2 32 = 4294967296 := rfl
    have hnat : Nat.pow 2 32 = 4294967296 := rfl
    show m.toNat < Nat.pow 2 32
    omega
  · cases h
    refine ⟨?_, ?_, ?_⟩ <;> rw [String.toList_ofList]
    · exact hne
    · exact hline
    · exact hlast
  · split at h
    · rename_i u hu
      cases h
      exact Uuid.value_lt_of_parse hu
    · cases h
  · split at h
    · rename_i bs hbs
      cases h
      refine ⟨areBytes_of_decode hbs, decode_ne_nil hbs (toUTF8_toList_ne_nil ?_)⟩
      rwa [String.toList_ofList]
    · cases h
  · cases h

theorem Identifier.readable_of_readIdentifier? {cs : List Char} {i : Identifier}
    (hlast : ∀ c ∈ cs.getLast?, isBlank c = false) (h : readIdentifier? cs = some i) : i.Readable := by
  unfold readIdentifier? at h
  split at h
  · rename_i k value
    split at h
    · rename_i hcond
      obtain ⟨-, hne, hline⟩ := hcond
      have hvalue : ∀ c ∈ value.getLast?, isBlank c = false := fun c hc =>
        hlast c (@getLast?_of_suffix [k, '='] value c hc)
      exact Identifier.readable_of_ofText? hne hline hvalue h
    · cases h
  · cases h

/-- **The reader returns readable node ids.** A text that ends with a character that is not
blank, such as a trimmed text, reads only as a node id the printer writes back. -/
theorem NodeId.readable_of_parse? {s : String} {n : NodeId}
    (hlast : ∀ c ∈ s.toList.getLast?, isBlank c = false) (h : NodeId.parse? s = some n) : n.Readable := by
  unfold NodeId.parse? at h
  split at h
  · rename_i rest hs
    dsimp only at h
    split at h
    · rename_i ident hident
      split at h
      · cases h
      · obtain ⟨ns, hns, h⟩ := Option.bind_eq_some_iff.mp h
        obtain ⟨i, hi, h⟩ := Option.bind_eq_some_iff.mp h
        cases h
        -- the identifier ends the text
        have hsplit : s.toList = ('n' :: 's' :: '=' :: (rest.take (rest.takeWhile Char.isDigit).length ++
            [';'])) ++ ident := by
          rw [hs, List.cons_append, List.cons_append, List.cons_append, List.append_assoc,
            List.singleton_append, ← hident, List.take_append_drop]
        have hident' : ∀ c ∈ ident.getLast?, isBlank c = false := fun c hc =>
          hlast c (hsplit ▸ getLast?_of_suffix hc)
        have hbounds := Float.bounds_of_readIntegerIn hns
        have hint : Int.pow 2 16 = 65536 := rfl
        have hnat : Nat.pow 2 16 = 65536 := rfl
        exact ⟨show ns.toNat < Nat.pow 2 16 by omega,
          Identifier.readable_of_readIdentifier? hident' hi⟩
    · cases h
  · obtain ⟨i, hi, rfl⟩ := Option.map_eq_some_iff.mp h
    exact ⟨show 0 < Nat.pow 2 16 by decide, Identifier.readable_of_readIdentifier? hlast hi⟩

end UaFlow.Ua
