import UaFlow.Text.Quoted
/-!
JSON values.

A number keeps the literal text it was read with, so that a value written back out shows the
digits it came with. An object is a list of members whose keys strictly increase: a key occurs
once, a later member with the same key replaces the earlier one, and members are written in key
order. `render` writes the compact form, with no blank between tokens.
-/

namespace UaFlow.Json

open UaFlow.Text

/-- A JSON number, kept as the text it was written with. -/
structure Number where
  text : String
  deriving DecidableEq, Inhabited

/-- A JSON value. The members of an object are kept sorted by key, each key once. -/
inductive Value where
  | null
  | bool (b : Bool)
  | num (n : Number)
  | str (s : String)
  | arr (items : List Value)
  | obj (members : List (String × Value))
  deriving Inhabited

namespace Members

/-- Adds a member, replacing the member with the same key and keeping keys in order. -/
def insert (k : String) (v : Value) : List (String × Value) → List (String × Value)
  | [] => [(k, v)]
  | (k', v') :: rest =>
    if k < k' then (k, v) :: (k', v') :: rest
    else if k = k' then (k, v) :: rest
    else (k', v') :: insert k v rest

/-- The members of a list of pairs, a later pair with a key replacing an earlier one. -/
def ofList (kvs : List (String × Value)) : List (String × Value) :=
  kvs.foldl (fun acc kv => insert kv.1 kv.2 acc) []

/-- The value stored under a key. -/
def find? (k : String) : List (String × Value) → Option Value
  | [] => none
  | (k', v) :: rest => if k = k' then some v else find? k rest

/-- The members without the one stored under a key. -/
def erase (k : String) : List (String × Value) → List (String × Value)
  | [] => []
  | (k', v) :: rest => if k = k' then rest else (k', v) :: erase k rest

theorem find?_insert_self (k : String) (v : Value) (ms : List (String × Value)) :
    find? k (insert k v ms) = some v := by
  induction ms with
  | nil => simp [insert, find?]
  | cons m rest ih =>
    obtain ⟨k', v'⟩ := m
    unfold insert
    by_cases h1 : k < k'
    · simp [h1, find?]
    · by_cases h2 : k = k'
      · simp [h2, find?]
      · simp [h1, h2, find?, ih]

end Members

/-- An object value from member pairs; a later pair with a key wins. -/
def Value.object (kvs : List (String × Value)) : Value :=
  .obj (Members.ofList kvs)

/-- The member of an object under a key. -/
def Value.field? : Value → String → Option Value
  | .obj ms, k => Members.find? k ms
  | _, _ => none

/-- A number from an integer, written in decimal. -/
def Number.ofInt (i : Int) : Number :=
  ⟨toString i⟩

/-- A number from a natural number, written in decimal. -/
def Number.ofNat (n : Nat) : Number :=
  ⟨toString n⟩

mutual

/-- The compact text of a value. -/
def Value.render : Value → String
  | .null => "null"
  | .bool b => if b then "true" else "false"
  | .num n => n.text
  | .str s => jsonQuote s
  | .arr items => "[" ++ renderItems items ++ "]"
  | .obj members => "\x7b" ++ renderMembers members ++ "\x7d"

/-- The items of an array, separated by commas. -/
def renderItems : List Value → String
  | [] => ""
  | [v] => v.render
  | v :: rest => v.render ++ "," ++ renderItems rest

/-- The members of an object, separated by commas. -/
def renderMembers : List (String × Value) → String
  | [] => ""
  | [(k, v)] => jsonQuote k ++ ":" ++ v.render
  | (k, v) :: rest => jsonQuote k ++ ":" ++ v.render ++ "," ++ renderMembers rest

end

theorem render_arr (items : List Value) : (Value.arr items).render = "[" ++ renderItems items ++ "]" := by
  simp [Value.render]

theorem render_str (s : String) : (Value.str s).render = jsonQuote s := by
  simp [Value.render]

end UaFlow.Json
