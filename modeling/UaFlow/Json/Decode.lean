import UaFlow.Json.Reader
/-!
Reading an already-read value into a shape.

Reading gives the value back with absent optional fields removed, or the first mismatch. A value
read as any value, or handed to a converting reader, is read again (`Rereading.direct`): its
objects are met in key order, so an object whose first key in that order is `numberMarker`
stands for a number and may hold nothing more. A record meets its members in key order; an open
record buffers the members it does not know, and only once all members are met and no required
field is missing are they read again (`Rereading.held`), so a fault in them comes after a
missing field.
-/

namespace UaFlow.Json

mutual

/-- Reads a value into a shape; `none` is an absent optional value. -/
def Shape.decode (shape : Shape) (value : Value) : Except Mismatch (Option Value) :=
  match shape, value with
  | .any, v => (v.rereadBy .direct).map some
  | .text, .str s => .ok (some (.str s))
  | .text, v => .error (.invalidType v.found "a string")
  | .optional _, .null => .ok none
  | .optional s, v => s.decode v
  | .list s, .arr items => do
    let vs ← decodeItems s items
    .ok (some (.arr vs))
  | .list _, v => .error (.invalidType v.found "a sequence")
  | .record _ fields isOpen, .obj members => do
    let (seen, acc, kept) ← decodeMembers fields isOpen members [] [] []
    match firstMissing fields seen with
    | some f => .error (.missingField f)
    | none => do
      let all ← addReread .held kept.reverse acc
      .ok (some (.obj all))
  | .record name fields false, .arr items => do
    let acc ← decodePositional name fields.length fields items 0 []
    if fields.length < items.length then
      .error (.invalidLength items.length "fewer elements in array")
    else .ok (some (.obj acc))
  | .record name _ _, v => .error (.invalidType v.found ("struct " ++ name))
  | .convert read, v => do
    let w ← v.rereadBy .direct
    match read w with
    | .ok x => .ok (some x)
    | .error msg => .error (.custom msg)
termination_by (sizeOf value, sizeOf shape)

/-- Reads the items of an array into one shape. -/
def decodeItems (s : Shape) (items : List Value) : Except Mismatch (List Value) :=
  match items with
  | [] => .ok []
  | v :: rest => do
    let x ← s.decode v
    let xs ← decodeItems s rest
    .ok (x.getD .null :: xs)
termination_by (sizeOf items, 0)

/-- Reads the members of an object into a record, in key order: the names of the known fields
seen, the fields read, and the unknown members an open record buffers, latest first. -/
def decodeMembers (fields : List (String × Shape × Bool)) (isOpen : Bool)
    (members : List (String × Value)) (seen : List String) (acc kept : List (String × Value)) :
      Except Mismatch (List String × List (String × Value) × List (String × Value)) :=
  match members with
  | [] => .ok (seen, acc, kept)
  | (k, v) :: rest =>
    match fieldShape? fields k with
    | some s => do
      let x ← s.decode v
      let acc' := match x with
        | some y => Members.insert k y acc
        | none => acc
      decodeMembers fields isOpen rest (k :: seen) acc' kept
    | none =>
      if isOpen then do
        v.checkBuffered
        decodeMembers fields isOpen rest seen acc ((k, v) :: kept)
      else decodeMembers fields isOpen rest seen acc kept
termination_by (sizeOf members, 0)

/-- Reads the items of an array into the fields of a record, in order. -/
def decodePositional (name : String) (count : Nat) (fields : List (String × Shape × Bool))
    (items : List Value) (i : Nat) (acc : List (String × Value)) :
      Except Mismatch (List (String × Value)) :=
  match fields, items with
  | [], _ => .ok acc
  | (_, _, req) :: fs, [] =>
    if req then
      .error (.invalidLength i ("struct " ++ name ++ " with " ++ toString count ++ " elements"))
    else decodePositional name count fs [] (i + 1) acc
  | (k, s, _) :: fs, v :: vs => do
    let x ← s.decode v
    let acc' := match x with
      | some y => Members.insert k y acc
      | none => acc
    decodePositional name count fs vs (i + 1) acc'
termination_by (sizeOf items, sizeOf fields)

end


end UaFlow.Json
