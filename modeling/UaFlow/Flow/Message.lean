import UaFlow.Json.Decode
import UaFlow.Text.Blank
/-!
# Messages

A message is the envelope that travels between nodes: an id, the fields the nodes fill in
(topic, data type, browse name, payload, event filter, event fields, event type ids, object id,
method id, input arguments), and any other members it arrived with, kept as they were.

As JSON a message is an object. Reading one, `_msgid` defaults to a fresh id, `payload` to
`null`, and every other known field to absent, `null` also reading as absent; a known field of
the wrong kind is a mismatch, and in a text a known field may not appear twice (for other members
the last one counts). Writing one gives the id, the payload, the present fields and the other
members.
-/

namespace UaFlow.Flow

open UaFlow.Json

/-- An argument of a method call: its data type name and its value. -/
structure MethodArgument where
  dataType : String
  value : Value
  deriving Inhabited

/-- The envelope passed between nodes. -/
structure Message where
  msgId : String
  topic : Option String := none
  datatype : Option String := none
  browseName : Option String := none
  payload : Value := .null
  eventFilter : Option Value := none
  eventFields : Option (List String) := none
  eventTypeIds : Option String := none
  objectId : Option String := none
  methodId : Option String := none
  inputArguments : Option (List MethodArgument) := none
  extra : List (String × Value) := []
  deriving Inhabited

/-- The message a node receives when none is given: an empty text payload. -/
def Message.empty (fresh : String) : Message :=
  { msgId := fresh, payload := .str "" }

/-- The shape of a method argument. -/
def MethodArgument.shape : Shape :=
  .record "MethodArgument" [("dataType", .text, true), ("value", .any, true)] false

/-- The shape of a message. -/
def Message.shape : Shape :=
  .record "Message" [("_msgid", .text, false), ("topic", .optional .text, false),
    ("datatype", .optional .text, false), ("browseName", .optional .text, false),
    ("payload", .any, false), ("eventFilter", .optional .any, false),
    ("eventFields", .optional (.list .text), false), ("eventTypeIds", .optional .text, false),
    ("objectId", .optional .text, false), ("methodId", .optional .text, false),
    ("inputArguments", .optional (.list MethodArgument.shape), false)] true

/-- The names of the known fields. -/
def Message.fieldNames : List String :=
  ["_msgid", "topic", "datatype", "browseName", "payload", "eventFilter", "eventFields",
    "eventTypeIds", "objectId", "methodId", "inputArguments"]

/-- A string member. -/
def textMember? (members : List (String × Value)) (k : String) : Option String :=
  match Members.find? k members with
  | some (.str s) => some s
  | _ => none

/-- The strings of an array member. -/
def textsMember? (members : List (String × Value)) (k : String) : Option (List String) :=
  match Members.find? k members with
  | some (.arr items) => some (items.filterMap fun
    | .str s => some s
    | _ => none)
  | _ => none

/-- A method argument from its decoded members. -/
def MethodArgument.ofMembers (members : List (String × Value)) : MethodArgument :=
  ⟨(textMember? members "dataType").getD "", (Members.find? "value" members).getD .null⟩

/-- The method arguments of an array member. -/
def argumentsMember? (members : List (String × Value)) : Option (List MethodArgument) :=
  match Members.find? "inputArguments" members with
  | some (.arr items) => some (items.map fun
    | .obj ms => MethodArgument.ofMembers ms
    | _ => MethodArgument.ofMembers [])
  | _ => none

/-- A message from the members of a decoded object. -/
def Message.ofMembers (fresh : String) (members : List (String × Value)) : Message :=
  { msgId := (textMember? members "_msgid").getD fresh
    topic := textMember? members "topic"
    datatype := textMember? members "datatype"
    browseName := textMember? members "browseName"
    payload := (Members.find? "payload" members).getD .null
    eventFilter := Members.find? "eventFilter" members
    eventFields := textsMember? members "eventFields"
    eventTypeIds := textMember? members "eventTypeIds"
    objectId := textMember? members "objectId"
    methodId := textMember? members "methodId"
    inputArguments := argumentsMember? members
    extra := members.filter fun m => !Message.fieldNames.contains m.1 }

/-- A message from a decoded value. -/
def Message.ofDecoded (fresh : String) : Option Value → Message
  | some (.obj members) => Message.ofMembers fresh members
  | _ => Message.ofMembers fresh []

/-- Reads a message from a JSON value. -/
def Message.ofValue (fresh : String) (v : Value) : Except DecodeError Message :=
  match Message.shape.decode v with
  | .ok d => .ok (Message.ofDecoded fresh d)
  | .error m => .error (DecodeError.ofMismatch m)

/-- Reads a message from a JSON text. -/
def Message.ofText (fresh : String) (s : String) : Except DecodeError Message :=
  (readText Message.shape s).map (Message.ofDecoded fresh)

/-- The JSON form of a method argument. -/
def MethodArgument.toValue (a : MethodArgument) : Value :=
  Value.object [("dataType", .str a.dataType), ("value", a.value)]

/-- A member for a field that is present. -/
def presentMember (k : String) : Option Value → List (String × Value)
  | some v => [(k, v)]
  | none => []

/-- The members of a message's fields, in the order the fields are declared: the id, the present
optional fields and the payload. -/
def Message.fieldMembers (m : Message) : List (String × Value) :=
  [("_msgid", .str m.msgId)] ++ presentMember "topic" (m.topic.map .str) ++
    presentMember "datatype" (m.datatype.map .str) ++
    presentMember "browseName" (m.browseName.map .str) ++ [("payload", m.payload)] ++
    presentMember "eventFilter" m.eventFilter ++
    presentMember "eventFields" (m.eventFields.map fun fs => .arr (fs.map .str)) ++
    presentMember "eventTypeIds" (m.eventTypeIds.map .str) ++
    presentMember "objectId" (m.objectId.map .str) ++
    presentMember "methodId" (m.methodId.map .str) ++
    presentMember "inputArguments"
      (m.inputArguments.map fun args => .arr (args.map MethodArgument.toValue))

/-- The JSON form of a message. -/
def Message.toValue (m : Message) : Value :=
  Value.object (m.fieldMembers ++ m.extra)

/-- The compact JSON text a message is sent on with: its fields in the order they are declared,
then its other members in key order, the last of a repeated key counting. -/
def Message.toText (m : Message) : String :=
  "\x7b" ++ renderMembers (m.fieldMembers ++ Members.ofList m.extra) ++ "\x7d"

example :
    ({ msgId := "a", topic := some "t", payload := .str "x", extra := [("b", .null), ("a", .bool true)] } :
      Message).toText =
      "\x7b\"_msgid\":\"a\",\"topic\":\"t\",\"payload\":\"x\",\"a\":true,\"b\":null\x7d" := by
  decide

/-- A payload is empty when it is `null`, the empty string or the empty array. -/
def Message.payloadIsEmpty (m : Message) : Bool :=
  match m.payload with
  | .null => true
  | .str s => s.isEmpty
  | .arr items => items.isEmpty
  | _ => false

/-- The data type the message asks for: its trimmed `datatype`, when that is not blank. -/
def Message.datatypeOverride (m : Message) : Option String :=
  match m.datatype with
  | some d => if (Text.trim d).isEmpty then none else some (Text.trim d)
  | none => none

end UaFlow.Flow
