import UaFlow.Codec.Base64
import UaFlow.Codec.Uuid
import UaFlow.Float.Text
/-!
# Node identifiers

A node id is a namespace index and an identifier, which is a number, a string, a guid or a byte
string. Its text is `ns=N;` (left out when `N` is `0`) followed by `i=` and the decimal number,
`s=` and the string, `g=` and the hyphenated guid, or `b=` and the byte string in base64.

Reading one is strict: the namespace index is a run of decimal digits that fits 16 bits; after
the kind letter and `=` comes at least one character and no line break; a number has an optional
plus sign and fits 32 bits, a guid is in any form a uuid may take, and a byte string is strict
padded base64.
-/

namespace UaFlow.Ua

open UaFlow.Codec

/-- The identifier part of a node id. -/
inductive Identifier where
  | numeric (n : Nat)
  | text (s : String)
  | guid (u : Uuid)
  | bytes (bs : List Nat)
  deriving DecidableEq, Inhabited

/-- A namespace index and an identifier. -/
structure NodeId where
  namespaceIndex : Nat
  identifier : Identifier
  deriving DecidableEq, Inhabited

/-- The text of an identifier, with its kind letter. -/
def Identifier.render : Identifier → String
  | .numeric n => "i=" ++ toString n
  | .text s => "s=" ++ s
  | .guid u => "g=" ++ u.hyphenated
  | .bytes bs => "b=" ++ encode bs

/-- The text of a node id. -/
def NodeId.render (n : NodeId) : String :=
  (if n.namespaceIndex = 0 then "" else "ns=" ++ toString n.namespaceIndex ++ ";") ++
    n.identifier.render

/-- Reads an identifier from its kind letter and its value text. -/
def Identifier.ofText? (kind : Char) (value : String) : Option Identifier :=
  match kind with
  | 'i' => (Float.readIntegerIn 0 (Int.pow 2 32 - 1) value).map fun n => .numeric n.toNat
  | 's' => some (.text value)
  | 'g' => match Uuid.parse value with
    | .ok u => some (.guid u)
    | .error _ => none
  | 'b' => match decode value with
    | .ok bs => some (.bytes bs)
    | .error _ => none
  | _ => none

/-- Reads `k=value` with a kind letter and a value of at least one character and no line break. -/
def readIdentifier? (cs : List Char) : Option Identifier :=
  match cs with
  | k :: '=' :: value =>
    if (k = 'i' ∨ k = 's' ∨ k = 'g' ∨ k = 'b') ∧ value ≠ [] ∧ '\n' ∉ value then
      Identifier.ofText? k (String.ofList value)
    else none
  | _ => none

/-- Reads a node id. -/
def NodeId.parse? (s : String) : Option NodeId :=
  match s.toList with
  | 'n' :: 's' :: '=' :: rest =>
    let digits := rest.takeWhile Char.isDigit
    match rest.drop digits.length with
    | ';' :: ident =>
      if digits = [] then none
      else do
        let ns ← Float.readIntegerIn 0 (Int.pow 2 16 - 1) (String.ofList digits)
        let i ← readIdentifier? ident
        return ⟨ns.toNat, i⟩
    | _ => none
  | cs => (readIdentifier? cs).map fun i => ⟨0, i⟩

end UaFlow.Ua
