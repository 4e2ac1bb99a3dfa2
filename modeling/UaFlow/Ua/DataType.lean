import UaFlow.Text.Blank
/-!
# Data types and type tags

The scalar data types a node can be configured with: a boolean, eight integer kinds, two
floating-point kinds, and seven kinds of text-like values. A type tag is a data type together
with whether it is an array of that type.

A type tag is written as the type's name, followed by ` Array` for an array. Reading one trims
blanks on both sides, takes a final ` Array` (one ASCII space) as the array mark and trims the
end of what is left, and then accepts an exact type name or one of the aliases `Int8` (for
`SByte`) and `UInt8` (for `Byte`).
-/

namespace UaFlow.Ua

/-- The integer kinds, by width and signedness. -/
inductive IntKind where
  | sbyte
  | byte
  | int16
  | uint16
  | int32
  | uint32
  | int64
  | uint64
  deriving DecidableEq, Inhabited, Repr

/-- The least value of an integer kind. -/
def IntKind.lo : IntKind → Int
  | .sbyte => -Int.pow 2 7
  | .int16 => -Int.pow 2 15
  | .int32 => -Int.pow 2 31
  | .int64 => -Int.pow 2 63
  | _ => 0

/-- The greatest value of an integer kind. -/
def IntKind.hi : IntKind → Int
  | .sbyte => Int.pow 2 7 - 1
  | .byte => Int.pow 2 8 - 1
  | .int16 => Int.pow 2 15 - 1
  | .uint16 => Int.pow 2 16 - 1
  | .int32 => Int.pow 2 31 - 1
  | .uint32 => Int.pow 2 32 - 1
  | .int64 => Int.pow 2 63 - 1
  | .uint64 => Int.pow 2 64 - 1

/-- The scalar data types. -/
inductive DataType where
  | boolean
  | integer (kind : IntKind)
  | float
  | double
  | string
  | localizedText
  | dateTime
  | nodeId
  | qualifiedName
  | byteString
  | guid
  deriving DecidableEq, Inhabited, Repr

/-- Every data type, in the order of the type list. -/
def DataType.all : List DataType :=
  [.boolean, .integer .sbyte, .integer .byte, .integer .int16, .integer .uint16, .integer .int32,
    .integer .uint32, .integer .int64, .integer .uint64, .float, .double, .string, .localizedText,
    .dateTime, .nodeId, .qualifiedName, .byteString, .guid]

/-- The name of an integer kind. -/
def IntKind.name : IntKind → String
  | .sbyte => "SByte"
  | .byte => "Byte"
  | .int16 => "Int16"
  | .uint16 => "UInt16"
  | .int32 => "Int32"
  | .uint32 => "UInt32"
  | .int64 => "Int64"
  | .uint64 => "UInt64"

/-- The name of a data type. -/
def DataType.name : DataType → String
  | .boolean => "Boolean"
  | .integer k => k.name
  | .float => "Float"
  | .double => "Double"
  | .string => "String"
  | .localizedText => "LocalizedText"
  | .dateTime => "DateTime"
  | .nodeId => "NodeId"
  | .qualifiedName => "QualifiedName"
  | .byteString => "ByteString"
  | .guid => "Guid"

/-- The data type of an exact name, or of the aliases `Int8` and `UInt8`. -/
def DataType.ofName? (name : String) : Option DataType :=
  if name = "Int8" then some (.integer .sbyte)
  else if name = "UInt8" then some (.integer .byte)
  else DataType.all.find? fun t => t.name = name

/-- A data type, and whether values are arrays of it. -/
structure TypeTag where
  dataType : DataType
  isArray : Bool
  deriving DecidableEq, Inhabited, Repr

/-- The mark of an array type. -/
def arraySuffix : String := " Array"

/-- Reads a type tag. -/
def TypeTag.ofName? (s : String) : Option TypeTag :=
  let name := Text.trim s
  let suffix := arraySuffix.toList
  let cs := name.toList
  if suffix.isSuffixOf cs then
    let scalar := Text.trimEnd (String.ofList (cs.take (cs.length - suffix.length)))
    (DataType.ofName? scalar).map fun t => ⟨t, true⟩
  else (DataType.ofName? name).map fun t => ⟨t, false⟩

/-- The name of a type tag. -/
def TypeTag.name (t : TypeTag) : String :=
  if t.isArray then t.dataType.name ++ arraySuffix else t.dataType.name

theorem ofName?_name (t : DataType) : DataType.ofName? t.name = some t := by
  cases t with
  | integer k => cases k <;> decide
  | _ => decide

end UaFlow.Ua
