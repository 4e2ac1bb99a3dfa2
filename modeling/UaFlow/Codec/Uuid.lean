/-!
Universally unique identifiers as text.

A uuid is 128 bits. It is read from 32 hex digits, from the hyphenated form `8-4-4-4-12`, from
the hyphenated form between braces, or from the hyphenated form after `urn:uuid:`; the letters of
the prefix and the hex digits may be of either case. It is written hyphenated in lower case.

When a text is not a uuid, the fault is found by scanning it again. A text with the shape of a
hyphenated form (36 bytes, 38 bytes between braces, or 45 bytes after the prefix) is judged by
its 36 bytes of body alone, with positions counted from the start of the body. Any other text of
more than 45 bytes is refused by its length alone. Otherwise the part that should hold the uuid
is the text between braces, else the text after a `urn:uuid:` prefix (in either case), else the
whole text, which is then *plain*; positions count bytes from the start of the whole text. In
that part the fault is the first character that is neither a hex digit nor a hyphen, else, for a
plain text without hyphens, the length, else a wrong number of hyphen-separated groups, else the
first group of the wrong length; the last group's length is counted from the whole text.
-/

namespace UaFlow.Codec

/-- A uuid, as its 128-bit value. -/
structure Uuid where
  value : Nat
  deriving DecidableEq, Inhabited

/-- Why a text is not a uuid. -/
inductive UuidError where
  | invalidCharacter (c : Char) (index : Nat)
  | invalidLength (length : Nat)
  | invalidGroupCount (count : Nat)
  | invalidGroupLength (group : Nat) (expected : Nat) (found : Nat)
  deriving DecidableEq, Inhabited

/-- The message of a uuid error. -/
def UuidError.message : UuidError → String
  | .invalidCharacter c i => "invalid character: found `" ++ c.toString ++ "` at " ++ toString i
  | .invalidLength n => "invalid length: found " ++ toString n
  | .invalidGroupCount n => "invalid group count: expected 5, found " ++ toString n
  | .invalidGroupLength g e f =>
    "invalid group length in group " ++ toString g ++ ": expected " ++ toString e ++
      ", found " ++ toString f

/-- The value of a hex digit. -/
def hexDigitValue? (c : Char) : Option Nat :=
  if '0' ≤ c ∧ c ≤ '9' then some (c.toNat - 48)
  else if 'a' ≤ c ∧ c ≤ 'f' then some (c.toNat - 87)
  else if 'A' ≤ c ∧ c ≤ 'F' then some (c.toNat - 55)
  else none

/-- The value of a run of hex digits. -/
def hexRun? (cs : List Char) : Option Nat :=
  cs.foldl (fun acc c => acc.bind fun a => (hexDigitValue? c).map fun d => a * 16 + d) (some 0)

/-- Reads 32 hex digits. -/
def readSimple? (cs : List Char) : Option Uuid :=
  if cs.length = 32 then (hexRun? cs).map Uuid.mk else none

/-- Reads the hyphenated form `8-4-4-4-12`. -/
def readHyphenated? (cs : List Char) : Option Uuid :=
  if cs.length = 36 ∧ cs[8]? = some '-' ∧ cs[13]? = some '-' ∧ cs[18]? = some '-' ∧
      cs[23]? = some '-' then
    let digits := cs.take 8 ++ (cs.drop 9).take 4 ++ (cs.drop 14).take 4 ++ (cs.drop 19).take 4 ++
      cs.drop 24
    (hexRun? digits).map Uuid.mk
  else none

/-- The `urn:uuid:` prefix. -/
def urnPrefix : List Char :=
  "urn:uuid:".toList

/-- Whether a text starts with the `urn:uuid:` prefix, letters in either case. -/
def hasUrnPrefix (cs : List Char) : Bool :=
  (cs.take 9).map Char.toLower == urnPrefix

/-- Whether a text is wrapped in braces. -/
def isBraced (cs : List Char) : Bool :=
  cs.head? == some '{' && cs.getLast? == some '}' && 2 ≤ cs.length

/-- The body of a text of `size` bytes that has the shape of a hyphenated form: the whole of a
text of 36 bytes, the inside of one of 38 bytes between braces, or the rest of one of 45 bytes
after the prefix. -/
def hyphenatedBody? (size : Nat) (cs : List Char) : Option (List Char) :=
  if size = 36 then some cs
  else if size = 38 ∧ isBraced cs then some (cs.drop 1).dropLast
  else if size = 45 ∧ hasUrnPrefix cs then some (cs.drop 9)
  else none

/-- Where each group starts in the hyphenated form. -/
def groupStarts : List Nat := [0, 9, 14, 19, 24]

/-- The expected length of each group. -/
def groupLengths : List Nat := [8, 4, 4, 4, 12]

/-- Scans for the first bad character, collecting the positions of hyphens within the part; a
bad character is placed `offset` bytes further, where the part starts in the text. Every
character before a bad one is a single byte, so positions count bytes. -/
def scanGroups (offset : Nat) : List Char → Nat → List Nat → Except UuidError (List Nat)
  | [], _, hyphens => .ok hyphens.reverse
  | c :: rest, i, hyphens =>
    if c = '-' then scanGroups offset rest (i + 1) (i :: hyphens)
    else if (hexDigitValue? c).isSome then scanGroups offset rest (i + 1) hyphens
    else .error (.invalidCharacter c (offset + i))

/-- The first hyphen that is out of place, as a group length fault. -/
def firstBadGroup (totalLength : Nat) : List Nat → Nat → UuidError
  | h :: hs, i =>
    let start := groupStarts.getD i 0
    if h + 1 = groupStarts.getD (i + 1) 0 then firstBadGroup totalLength hs (i + 1)
    else .invalidGroupLength i (groupLengths.getD i 0) (h - start)
  | [], _ => .invalidGroupLength 4 12 (totalLength - 24)

/-- The fault in the part of a text that should hold a uuid: the part starts `offset` bytes
into a text of `size` bytes, and a plain part without hyphens is judged by its length. -/
def partFault (part : List Char) (offset : Nat) (plain : Bool) (size : Nat) : UuidError :=
  match scanGroups offset part 0 [] with
  | .error e => e
  | .ok hyphens =>
    if hyphens.isEmpty ∧ plain then .invalidLength size
    else if hyphens.length ≠ 4 then .invalidGroupCount (hyphens.length + 1)
    else firstBadGroup size hyphens 0

/-- Why a text that did not read is not a uuid. -/
def diagnose (s : String) : UuidError :=
  let cs := s.toList
  let size := s.utf8ByteSize
  match hyphenatedBody? size cs with
  | some body => partFault body 0 false 36
  | none =>
    if 45 < size then .invalidLength size
    else if isBraced cs then partFault ((cs.drop 1).dropLast) 1 false size
    else if hasUrnPrefix cs then partFault (cs.drop 9) 9 false size
    else partFault cs 0 true size

/-- Reads a uuid in any of its four forms. -/
def Uuid.parse (s : String) : Except UuidError Uuid :=
  let cs := s.toList
  let size := s.utf8ByteSize
  let found : Option Uuid :=
    if size = 32 then readSimple? cs else (hyphenatedBody? size cs).bind readHyphenated?
  match found with
  | some u => .ok u
  | none => .error (diagnose s)

/-- `n` as exactly `width` lower-case hex digits. -/
def hexFixed (width n : Nat) : List Char :=
  (List.range width).reverse.map fun i =>
    let d := n / Nat.pow 16 i % 16
    if d < 10 then Char.ofNat (48 + d) else Char.ofNat (87 + d)

/-- The hyphenated lower-case text of a uuid. -/
def Uuid.hyphenated (u : Uuid) : String :=
  let ds := hexFixed 32 u.value
  String.ofList (ds.take 8 ++ '-' :: (ds.drop 8).take 4 ++ '-' :: (ds.drop 12).take 4 ++
    '-' :: (ds.drop 16).take 4 ++ '-' :: ds.drop 20)

end UaFlow.Codec
