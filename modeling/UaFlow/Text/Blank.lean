/-!
Blank characters and trimming.

A character is blank when it has the Unicode `White_Space` property: the five ASCII controls
from tab to carriage return, the space, next line, no-break space and the spaces of the general
punctuation and ideographic blocks. Trimming removes blank characters from one or both ends of a
text and keeps everything between them, blanks included.
-/

namespace UaFlow.Text

/-- The characters with the Unicode `White_Space` property. -/
def isBlank (c : Char) : Bool :=
  let n := c.toNat
  (0x09 ≤ n && n ≤ 0x0D) || n == 0x20 || n == 0x85 || n == 0xA0 || n == 0x1680 ||
    (0x2000 ≤ n && n ≤ 0x200A) || n == 0x2028 || n == 0x2029 || n == 0x202F ||
    n == 0x205F || n == 0x3000

/-- The text without its leading blanks. -/
def trimStart (s : String) : String :=
  String.ofList (s.toList.dropWhile isBlank)

/-- The text without its trailing blanks. -/
def trimEnd (s : String) : String :=
  String.ofList (s.toList.reverse.dropWhile isBlank).reverse

/-- The text without blanks at either end. -/
def trim (s : String) : String :=
  trimEnd (trimStart s)

/-- A text is blank when nothing is left after trimming. -/
def IsBlankText (s : String) : Prop :=
  s.toList.all isBlank = true

/-- Every character that the core library calls whitespace is blank here too. -/
theorem isBlank_of_isWhitespace {c : Char} (h : c.isWhitespace = true) : isBlank c = true := by
  simp only [Char.isWhitespace, Bool.or_eq_true, decide_eq_true_eq] at h
  simp only [isBlank, Bool.or_eq_true, Bool.and_eq_true, decide_eq_true_eq, beq_iff_eq]
  rcases h with ((h | h) | h) | h <;> subst h <;> decide

theorem trimStart_toList (s : String) : (trimStart s).toList = s.toList.dropWhile isBlank := by
  simp [trimStart]

end UaFlow.Text
