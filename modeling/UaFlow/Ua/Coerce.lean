import UaFlow.Ua.Variant
import UaFlow.Time.Rfc3339
import UaFlow.Json.Reader
import UaFlow.Json.Number
/-!
# Coercing raw values to typed values

`coerce` turns a raw JSON value, most often text typed into a node's form, into the variant a
type tag asks for. Each data type has one rule:

* booleans take a JSON boolean, a number (true unless zero), or the text `true`, `1`, `false` or
  `0` in any case;
* integers take a number or a text of an integer, or of a floating-point value that is whole
  (held at the bounds of 128 bits); the result must lie within the integer kind;
* floating-point types take a finite number or the text of one; single precision rounds to the
  nearest single and fails when that is past the largest one;
* strings take anything but `null`, non-strings as their JSON text;
* localized text is a string (in locale `en`) or an object with a string `text`;
* stamps are milliseconds since the epoch, as a number or a text, or an RFC 3339 text;
* node ids, qualified names, byte strings (base64 text, or a list of bytes) and guids are read
  from their text.

An array takes a JSON array, a text that starts with `[` read as JSON, a text of comma-separated
parts (each trimmed), or any other value as its only element; every element must coerce.

A failure names the data type, the raw value as text and the reason. The raw value is the text
itself for a string and its JSON text otherwise, except where the reason concerns the value as a
whole JSON value (a non-whole or non-finite number).
-/

namespace UaFlow.Ua

open UaFlow.Json UaFlow.Float UaFlow.Codec UaFlow.Time

/-- Why a raw value does not coerce. -/
inductive Reason where
  | notANumber
  | notAnInteger
  | outOfRange
  | notFinite
  | noValue
  | expectedText
  | missingText
  | expectedDate
  | expectedEpochMillis
  | timestampOutOfRange
  | expectedNodeIdText
  | expectedBytes
  | expectedGuidText
  | expectedBoolean
  | qualifiedName (e : QualifiedNameError)
  | base64 (e : Base64Error)
  | uuid (e : UuidError)
  | stamp (e : StampError)
  | arrayText (e : DecodeError)
  deriving Inhabited

/-- The text of a reason. -/
def Reason.message : Reason → String
  | .notANumber => "not a number"
  | .notAnInteger => "not an integer"
  | .outOfRange => "out of range"
  | .notFinite => "not a finite number"
  | .noValue => "no value"
  | .expectedText => "expected text"
  | .missingText => "missing text"
  | .expectedDate => "expected date"
  | .expectedEpochMillis => "expected epoch milliseconds"
  | .timestampOutOfRange => "timestamp out of range"
  | .expectedNodeIdText => "expected node id string"
  | .expectedBytes => "expected base64 text or byte list"
  | .expectedGuidText => "expected guid string"
  | .expectedBoolean => "expected true/false"
  | .qualifiedName e => e.message
  | .base64 e => e.message
  | .uuid e => e.message
  | .stamp e => e.message
  | .arrayText e => e.message

/-- Why a coercion fails. -/
inductive CoercionError where
  | unknownDataType (name : String)
  | invalidValue (dataType : String) (value : String) (reason : Reason)
  | invalidNodeId (text : String)
  deriving Inhabited

/-- The message of a coercion error. -/
def CoercionError.message : CoercionError → String
  | .unknownDataType name => "unknown datatype '" ++ name ++ "'"
  | .invalidValue t v r => "cannot coerce '" ++ v ++ "' to " ++ t ++ ": " ++ r.message
  | .invalidNodeId s => "invalid node id '" ++ s ++ "'"

/-- The JSON report of a coercion error: its kind, message and the fields it carries. -/
def CoercionError.toValue (e : CoercionError) : Value :=
  let common := [("message", Value.str e.message)]
  match e with
  | .unknownDataType name =>
    Value.object (("error", .str "UnknownDataType") :: ("datatype", .str name) :: common)
  | .invalidValue t v r =>
    Value.object (("error", .str "InvalidValue") :: ("datatype", .str t) :: ("value", .str v) ::
      ("reason", .str r.message) :: common)
  | .invalidNodeId s =>
    Value.object (("error", .str "InvalidNodeId") :: ("value", .str s) :: common)

/-- Reads a type name as a tag; a text that names no type fails, naming the text as given. -/
def TypeTag.parse (name : String) : Except CoercionError TypeTag :=
  match TypeTag.ofName? name with
  | some tag => .ok tag
  | none => .error (.unknownDataType name)

theorem TypeTag.parse_of_ofName? {name : String} {tag : TypeTag} (h : TypeTag.ofName? name = some tag) :
    TypeTag.parse name = .ok tag := by
  rw [TypeTag.parse, h]

theorem TypeTag.parse_of_ofName?_none {name : String} (h : TypeTag.ofName? name = none) :
    TypeTag.parse name = .error (.unknownDataType name) := by
  rw [TypeTag.parse, h]

section Rules

variable (t : DataType)

/-- Fails with a reason for a raw value. -/
def invalid {α : Type} (value : String) (reason : Reason) : Except CoercionError α :=
  .error (.invalidValue t.name value reason)

/-- The integer of a double that is whole, held at the bounds of 128 bits. -/
def wholeInteger (x : Option Binary) (raw : Value) : Except CoercionError Int :=
  match x with
  | some b =>
    if Format.double.isWhole b then .ok (clampInt (-Int.pow 2 127) (Int.pow 2 127 - 1) (Format.double.truncate b))
    else invalid t raw.render .notAnInteger
  | none => invalid t raw.render .notAnInteger

/-- Reads a raw value as an integer of a kind. -/
def readKindInteger (kind : IntKind) (raw : Value) : Except CoercionError Int := do
  let wide ← match raw with
    | .num n =>
      match n.asInt64? with
      | some i => pure i
      | none =>
        match n.asUInt64? with
        | some u => pure u
        | none => wholeInteger t n.asDouble? raw
    | .str s =>
      let trimmed := Text.trim s
      match readIntegerIn (-Int.pow 2 127) (Int.pow 2 127 - 1) trimmed with
      | some i => pure i
      | none =>
        match readFloat trimmed with
        | some lit => wholeInteger t (some (Format.double.ofLiteral lit)) raw
        | none => invalid t s .notANumber
    | other => invalid t other.render .notANumber
  if kind.lo ≤ wide ∧ wide ≤ kind.hi then pure wide else invalid t (toString wide) .outOfRange

/-- Reads a raw value as a finite double. -/
def readDouble (raw : Value) : Except CoercionError Binary := do
  let x ← match raw with
    | .num n =>
      match n.asDouble? with
      | some x => pure x
      | none => invalid t n.text .notANumber
    | .str s =>
      match readFloat (Text.trim s) with
      | some lit => pure (Format.double.ofLiteral lit)
      | none => invalid t s .notANumber
    | other => invalid t other.render .notANumber
  if x.isFinite then pure x else invalid t raw.render .notFinite

/-- Reads a raw value as a boolean. -/
def readBoolean (raw : Value) : Except CoercionError Bool :=
  match raw with
  | .bool b => .ok b
  | .num n => .ok (match n.asDouble? with
    | some x => !x.isZero
    | none => false)
  | .str s =>
    let word := (Text.trim s).map Char.toLower
    if word = "true" ∨ word = "1" then .ok true
    else if word = "false" ∨ word = "0" then .ok false
    else invalid t s .expectedBoolean
  | other => invalid t other.render .expectedBoolean

/-- The instant a number of milliseconds names. -/
def instantOfMillis (ms : Int) : Except CoercionError Instant :=
  match Instant.ofMillis? ms with
  | some i => .ok i
  | none => invalid t (toString ms) .timestampOutOfRange

/-- Reads a raw value as an instant. -/
def readInstant (raw : Value) : Except CoercionError Instant :=
  match raw with
  | .num n =>
    match n.asInt64? with
    | some ms => instantOfMillis t ms
    | none => invalid t n.text .expectedEpochMillis
  | .str s =>
    let trimmed := Text.trim s
    match readIntegerIn (-Int.pow 2 63) (Int.pow 2 63 - 1) trimmed with
    | some ms => instantOfMillis t ms
    | none =>
      match Instant.ofRfc3339 trimmed with
      | .ok i => .ok i
      | .error e => invalid t s (.stamp e)
  | other => invalid t other.render .expectedDate

/-- Reads a raw value as a localized text. -/
def readLocalizedText (raw : Value) : Except CoercionError LocalizedText :=
  match raw with
  | .str s => .ok ⟨defaultLocale, s⟩
  | .obj members =>
    match Members.find? "text" members with
    | some (.str text) =>
      let locale := match Members.find? "locale" members with
        | some (.str l) => l
        | _ => defaultLocale
      .ok ⟨locale, text⟩
    | _ => invalid t raw.render .missingText
  | other => invalid t other.render .expectedText

end Rules

/-- Reads a list of raw values as bytes. -/
def readByteList (items : List Value) : Except CoercionError (List Nat) :=
  items.mapM fun item =>
    (readKindInteger .byteString .byte item).map Int.toNat

/-- Coerces a raw value to a scalar of a data type. -/
def coerceScalar (t : DataType) (raw : Value) : Except CoercionError Scalar :=
  match t with
  | .boolean => Scalar.boolean <$> readBoolean t raw
  | .integer k => Scalar.integer k <$> readKindInteger t k raw
  | .float => do
    let x ← readDouble t raw
    let narrow := Format.narrow Format.double Format.single x
    if narrow.isFinite then pure (.float narrow) else invalid t raw.asText .outOfRange
  | .double => Scalar.double <$> readDouble t raw
  | .string =>
    match raw with
    | .null => invalid t "null" .noValue
    | other => .ok (.string other.asText)
  | .localizedText => Scalar.localizedText <$> readLocalizedText t raw
  | .dateTime => Scalar.dateTime <$> readInstant t raw
  | .nodeId =>
    match raw with
    | .str s =>
      match NodeId.parse? (Text.trim s) with
      | some n => .ok (.nodeId n)
      | none => .error (.invalidNodeId s)
    | other => invalid t other.render .expectedNodeIdText
  | .qualifiedName =>
    match raw with
    | .str s =>
      match QualifiedName.parse s with
      | .ok q => .ok (.qualifiedName q)
      | .error e => invalid t s (.qualifiedName e)
    | other => invalid t other.render .expectedText
  | .byteString =>
    match raw with
    | .str s =>
      match decode (Text.trim s) with
      | .ok bs => .ok (.byteString bs)
      | .error e => invalid t s (.base64 e)
    | .arr items => Scalar.byteString <$> readByteList items
    | other => invalid t other.render .expectedBytes
  | .guid =>
    match raw with
    | .str s =>
      match Uuid.parse (Text.trim s) with
      | .ok u => .ok (.guid u)
      | .error e => invalid t s (.uuid e)
    | other => invalid t other.render .expectedGuidText

/-- The elements of a raw value for an array type named `name`. -/
def arrayItems (name : String) (raw : Value) : Except CoercionError (List Value) :=
  match raw with
  | .arr items => .ok items
  | .str s =>
    if (Text.trimStart s).startsWith "[" then
      match readText (.list .any) s with
      | .ok (some (.arr items)) => .ok items
      | .ok _ => .ok []
      | .error e => .error (.invalidValue name s (.arrayText e))
    else .ok ((s.splitOn ",").map fun part => .str (Text.trim part))
  | other => .ok [other]

/-- Coerces a raw value to the variant a type name asks for. -/
def coerce (name : String) (raw : Value) : Except CoercionError Variant := do
  let tag ← TypeTag.parse name
  if tag.isArray then
    let items ← arrayItems name raw
    let elements ← items.mapM (coerceScalar tag.dataType)
    return .array tag.dataType elements
  else
    return .scalar (← coerceScalar tag.dataType raw)

/-- Under a name that reads as a tag, coercion is the coercion of that tag. -/
theorem coerce_of_ofName? {name : String} {tag : TypeTag} (h : TypeTag.ofName? name = some tag)
    (raw : Value) :
    coerce name raw =
      if tag.isArray then do
        let items ← arrayItems name raw
        let elements ← items.mapM (coerceScalar tag.dataType)
        return .array tag.dataType elements
      else return .scalar (← coerceScalar tag.dataType raw) := by
  rw [coerce, TypeTag.parse_of_ofName? h]
  rfl

/-- Coerces a text to the variant a type name asks for. -/
def coerceText (name text : String) : Except CoercionError Variant :=
  coerce name (.str text)

end UaFlow.Ua
