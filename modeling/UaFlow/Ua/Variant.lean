import UaFlow.Ua.DataType
import UaFlow.Ua.NodeId
import UaFlow.Ua.QualifiedName
import UaFlow.Time.Instant
import UaFlow.Json.Value
/-!
# Typed values

A variant is a value shaped for one data type: a scalar, or an array of scalars of one element
type. Integers carry their kind and are within its bounds; `Float` values are single precision
and `Double` values double precision.

As JSON, integers are numbers in decimal, floating-point values are numbers in their shortest
text (a single-precision value is first widened to the double nearest to its shortest decimal, so
`66.6` stays `66.6`), text-like values are strings, a localized text is `{locale, text}` and a
qualified name `{namespaceIndex, name}`, a stamp is RFC 3339 with milliseconds, a byte string
is base64, and an array is the list of its elements.
-/

namespace UaFlow.Ua

open UaFlow.Json UaFlow.Float UaFlow.Codec UaFlow.Time

/-- A scalar value of one data type. -/
inductive Scalar where
  | boolean (b : Bool)
  | integer (kind : IntKind) (n : Int)
  | float (x : Binary)
  | double (x : Binary)
  | string (s : String)
  | localizedText (t : LocalizedText)
  | dateTime (t : Instant)
  | nodeId (n : NodeId)
  | qualifiedName (q : QualifiedName)
  | byteString (bytes : List Nat)
  | guid (u : Uuid)
  deriving DecidableEq, Inhabited

/-- A scalar, or an array of scalars of one element type. -/
inductive Variant where
  | scalar (s : Scalar)
  | array (elementType : DataType) (items : List Scalar)
  deriving DecidableEq, Inhabited

/-- The data type of a scalar. -/
def Scalar.dataType : Scalar → DataType
  | .boolean _ => .boolean
  | .integer k _ => .integer k
  | .float _ => .float
  | .double _ => .double
  | .string _ => .string
  | .localizedText _ => .localizedText
  | .dateTime _ => .dateTime
  | .nodeId _ => .nodeId
  | .qualifiedName _ => .qualifiedName
  | .byteString _ => .byteString
  | .guid _ => .guid

/-- The data type of a variant, the element type for an array. -/
def Variant.dataType : Variant → DataType
  | .scalar s => s.dataType
  | .array t _ => t

/-- Whether a variant is an array. -/
def Variant.isArray : Variant → Bool
  | .scalar _ => false
  | .array _ _ => true

/-- A double-precision value as a JSON number. -/
def doubleNumber (x : Binary) : Value :=
  .num ⟨Format.double.numberText x⟩

/-- The JSON form of a scalar. -/
def Scalar.toValue : Scalar → Value
  | .boolean b => .bool b
  | .integer _ n => .num (Number.ofInt n)
  | .float x => doubleNumber (widenThroughText x)
  | .double x => doubleNumber x
  | .string s => .str s
  | .localizedText t => Value.object [("locale", .str t.locale), ("text", .str t.text)]
  | .dateTime t => .str t.render
  | .nodeId n => .str n.render
  | .qualifiedName q =>
    Value.object [("namespaceIndex", .num (Number.ofNat q.namespaceIndex)), ("name", .str q.name)]
  | .byteString bs => .str (encode bs)
  | .guid u => .str u.hyphenated

/-- The JSON form of a variant. -/
def Variant.toValue : Variant → Value
  | .scalar s => s.toValue
  | .array _ items => .arr (items.map Scalar.toValue)

end UaFlow.Ua
