import UaFlow.Json.Decode
import UaFlow.Json.Number
import UaFlow.Text.Blank
/-!
# Node configurations

Each kind of node is configured by a record of form fields, as the host persists them. A config
is a JSON object (members it does not know are skipped) or an array of the fields in order; a
missing field takes its default.

Form fields are read leniently. A text field takes `null` as the empty text, a string as itself,
and anything else as its JSON text. A flag takes a boolean, `null` (false), or the text `true`,
`on`, `false`, `off` or the empty text, trimmed; anything else is refused. The event root
defaults to the server object when it is missing or blank.
-/

namespace UaFlow.Flow

open UaFlow.Json

/-- A form field read as text: `null` is empty, a string is itself, anything else its JSON text. -/
def textOf (v : Value) : Except String Value :=
  .ok (.str (match v with
    | .null => ""
    | .str s => s
    | other => other.render))

/-- A form field read as a flag. -/
def flagOf (v : Value) : Except String Value :=
  match v with
  | .null => .ok (.bool false)
  | .bool b => .ok (.bool b)
  | .str s =>
    let word := Text.trim s
    if word = "true" ∨ word = "on" then .ok (.bool true)
    else if word = "false" ∨ word = "off" ∨ word = "" then .ok (.bool false)
    else .error ("expected boolean, got '" ++ word ++ "'")
  | other => .error ("expected boolean, got " ++ other.render)

/-- The server object, the default root of an event subscription. -/
def serverObject : String := "ns=0;i=2253"

/-- The event root: a text field, the server object when blank. -/
def rootOf (v : Value) : Except String Value :=
  match textOf v with
  | .ok (.str s) => .ok (.str (if (Text.trim s).isEmpty then serverObject else s))
  | r => r

/-- An optional text field of a config. -/
def textField (name : String) : String × Shape × Bool :=
  (name, .convert textOf, false)

/-- An optional flag of a config. -/
def flagField (name : String) : String × Shape × Bool :=
  (name, .convert flagOf, false)

/-- A text member of a decoded config, empty when absent. -/
def textAt (members : List (String × Value)) (k : String) : String :=
  match Members.find? k members with
  | some (.str s) => s
  | _ => ""

/-- A flag member of a decoded config, false when absent. -/
def flagAt (members : List (String × Value)) (k : String) : Bool :=
  match Members.find? k members with
  | some (.bool b) => b
  | _ => false

/-- The members of a decoded record. -/
def decodedMembers : Option Value → List (String × Value)
  | some (.obj members) => members
  | _ => []

/-- Reads a config value into a record shape, giving its members. -/
def readConfig (shape : Shape) (v : Value) : Except DecodeError (List (String × Value)) :=
  match shape.decode v with
  | .ok d => .ok (decodedMembers d)
  | .error m => .error (DecodeError.ofMismatch m)

/-- The configuration of an item node. -/
structure ItemConfig where
  item : String
  datatype : String
  value : String
  name : String
  deriving DecidableEq, Inhabited

/-- The shape of an item config. -/
def ItemConfig.shape : Shape :=
  .record "ItemConfig" (["item", "datatype", "value", "name"].map textField) false

/-- Reads an item config. -/
def ItemConfig.ofValue (v : Value) : Except DecodeError ItemConfig := do
  let ms ← readConfig ItemConfig.shape v
  return ⟨textAt ms "item", textAt ms "datatype", textAt ms "value", textAt ms "name"⟩

/-- The configuration of an event node. -/
structure EventConfig where
  root : String
  eventType : String
  customEventType : String
  activateCustomEvent : Bool
  name : String
  deriving DecidableEq, Inhabited

/-- The shape of an event config. -/
def EventConfig.shape : Shape :=
  .record "EventConfig" [("root", .convert rootOf, false), textField "eventtype",
    textField "customeventtype", flagField "activatecustomevent", textField "name"] false

/-- Reads an event config. -/
def EventConfig.ofValue (v : Value) : Except DecodeError EventConfig := do
  let ms ← readConfig EventConfig.shape v
  let root := match Members.find? "root" ms with
    | some (.str s) => s
    | _ => serverObject
  return ⟨root, textAt ms "eventtype", textAt ms "customeventtype",
    flagAt ms "activatecustomevent", textAt ms "name"⟩

/-- The event type a node subscribes to: the custom one when activated. -/
def EventConfig.eventTypeId (c : EventConfig) : String :=
  if c.activateCustomEvent then c.customEventType else c.eventType

/-- The configuration of a method node: object, method, name and three argument slots. -/
structure MethodConfig where
  objectId : String
  methodId : String
  name : String
  arg0type : String
  arg0value : String
  arg1type : String
  arg1value : String
  arg2type : String
  arg2value : String
  deriving DecidableEq, Inhabited

/-- The shape of a method config. -/
def MethodConfig.shape : Shape :=
  .record "MethodConfig" (["objectid", "methodid", "name", "arg0type", "arg0value", "arg1type",
    "arg1value", "arg2type", "arg2value"].map textField) false

/-- Reads a method config. -/
def MethodConfig.ofValue (v : Value) : Except DecodeError MethodConfig := do
  let ms ← readConfig MethodConfig.shape v
  return ⟨textAt ms "objectid", textAt ms "methodid", textAt ms "name", textAt ms "arg0type",
    textAt ms "arg0value", textAt ms "arg1type", textAt ms "arg1value", textAt ms "arg2type",
    textAt ms "arg2value"⟩

/-- The configured arguments: the slots whose trimmed type is not blank, as (type, value). -/
def MethodConfig.arguments (c : MethodConfig) : List (String × String) :=
  ([(c.arg0type, c.arg0value), (c.arg1type, c.arg1value), (c.arg2type, c.arg2value)].map
    fun slot => (Text.trim slot.1, slot.2)).filter fun slot => !slot.1.isEmpty

/-- A user name and password. -/
structure Credentials where
  user : String
  password : String
  deriving DecidableEq, Inhabited

/-- The shape of credentials. -/
def Credentials.shape : Shape :=
  .record "Credentials" [textField "user", textField "password"] false

/-- The configuration of an endpoint node. -/
structure EndpointConfig where
  endpoint : String
  secPolicy : String
  secMode : String
  login : Bool
  credentials : Option Credentials
  name : String
  deriving DecidableEq, Inhabited

/-- The shape of an endpoint config. -/
def EndpointConfig.shape : Shape :=
  .record "EndpointConfig" [textField "endpoint", textField "secpolicy", textField "secmode",
    flagField "login", ("credentials", .optional Credentials.shape, false), textField "name"] false

/-- Reads an endpoint config. -/
def EndpointConfig.ofValue (v : Value) : Except DecodeError EndpointConfig := do
  let ms ← readConfig EndpointConfig.shape v
  let credentials := match Members.find? "credentials" ms with
    | some (.obj cs) => some ⟨textAt cs "user", textAt cs "password"⟩
    | _ => none
  return ⟨textAt ms "endpoint", textAt ms "secpolicy", textAt ms "secmode", flagAt ms "login",
    credentials, textAt ms "name"⟩

end UaFlow.Flow
