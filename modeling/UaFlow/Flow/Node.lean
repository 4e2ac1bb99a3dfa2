import UaFlow.Flow.Config
import UaFlow.Flow.Message
import UaFlow.Flow.Registry
import UaFlow.Ua.Coerce
import UaFlow.Ua.Security
import UaFlow.Ua.EventFilter
/-!
# Nodes

A node is built from its kind's configuration and shapes the messages it receives:

* an item node addresses a variable: it sets the topic to the item, the data type to the
  configured one and the browse name to the configured name, and coerces the payload to the data
  type the message asks for, else the configured one (an empty payload takes the configured
  value, when there is one);
* an event node sets the standard event filter and field list, the root as topic, and the event
  type it subscribes to;
* a method node sets the object and method ids and, when the message has no input arguments,
  the configured ones, each coerced to its type;
* an endpoint node holds connection settings and sends nothing on.

A coercion failure is reported under the node's type name.
-/

namespace UaFlow.Flow

open UaFlow.Json UaFlow.Ua

/-- Why a node cannot be built. -/
inductive ConfigError where
  | unknownNodeType (nodeType : String)
  | missingField (field : String) (context : String)
  | decode (e : DecodeError)
  deriving Inhabited

/-- The message of a configuration error. -/
def ConfigError.message : ConfigError → String
  | .unknownNodeType t => "unknown node type '" ++ t ++ "'"
  | .missingField f c => "missing field '" ++ f ++ "' in " ++ c
  | .decode e => "invalid configuration: " ++ e.message

/-- The JSON report of a configuration error. -/
def ConfigError.toValue (e : ConfigError) : Value :=
  let common := [("message", Value.str e.message)]
  match e with
  | .unknownNodeType t =>
    Value.object (("error", .str "UnknownNodeType") :: ("node_type", .str t) :: common)
  | .missingField f c =>
    Value.object (("error", .str "MissingField") :: ("field", .str f) :: ("context", .str c) ::
      common)
  | .decode d =>
    Value.object (("error", .str "Deserialize") :: ("class", .str d.category) :: common)

/-- Why a node fails on a message. -/
inductive NodeError where
  | coercion (nodeType : String) (e : CoercionError)
  | config (e : ConfigError)
  | unknownNode (id : String)
  deriving Inhabited

/-- The message of a node error. -/
def NodeError.message : NodeError → String
  | .coercion t e => t ++ ": " ++ e.message
  | .config e => e.message
  | .unknownNode id => "no deployed node with id '" ++ id ++ "'"

/-- The JSON report of a node error. -/
def NodeError.toValue (e : NodeError) : Value :=
  match e with
  | .coercion t c =>
    Value.object [("error", .str "Coercion"), ("message", .str e.message), ("node_type", .str t),
      ("source", c.toValue)]
  | .config c => c.toValue
  | .unknownNode id =>
    Value.object [("error", .str "UnknownNode"), ("message", .str e.message), ("id", .str id)]

/-- Who an endpoint connects as. -/
inductive UserIdentity where
  | anonymous
  | userName (user : String) (password : String)
  deriving DecidableEq, Inhabited

/-- An endpoint's resolved connection settings. -/
structure EndpointNode where
  name : String
  endpointUrl : String
  securityPolicy : SecurityPolicy
  securityMode : SecurityMode
  identity : UserIdentity
  deriving DecidableEq, Inhabited

/-- Resolves an endpoint config: a user name needs login, credentials and a non-empty user. -/
def EndpointNode.ofConfig (c : EndpointConfig) : EndpointNode :=
  let identity := match c.login, c.credentials with
    | true, some cr => if cr.user.isEmpty then .anonymous else .userName cr.user cr.password
    | _, _ => .anonymous
  ⟨c.name, c.endpoint, SecurityPolicy.resolve c.secPolicy, SecurityMode.resolve c.secMode, identity⟩

/-- An endpoint is secure when both its policy and its mode are not `None`. -/
def EndpointNode.isSecure (e : EndpointNode) : Bool :=
  e.securityPolicy != .none && e.securityMode != .none

/-- A built node. -/
inductive Node where
  | item (c : ItemConfig)
  | event (c : EventConfig)
  | method (c : MethodConfig)
  | endpoint (e : EndpointNode)
  deriving Inhabited

/-- The kind of a node. -/
def Node.kind : Node → NodeKind
  | .item _ => .item
  | .event _ => .event
  | .method _ => .method
  | .endpoint _ => .endpoint

/-- The type name of a node. -/
def Node.nodeType (n : Node) : String :=
  n.kind.typeName

/-- The configured name of a node. -/
def Node.name : Node → String
  | .item c => c.name
  | .event c => c.name
  | .method c => c.name
  | .endpoint e => e.name

/-- Builds a node of a kind from its config. -/
def NodeKind.create (k : NodeKind) (config : Value) : Except ConfigError Node :=
  let decoded {α : Type} (r : Except DecodeError α) : Except ConfigError α := r.mapError .decode
  match k with
  | .item => Node.item <$> decoded (ItemConfig.ofValue config)
  | .event => Node.event <$> decoded (EventConfig.ofValue config)
  | .method => do
    let c ← decoded (MethodConfig.ofValue config)
    if (Text.trim c.methodId).isEmpty then
      .error (.missingField "methodid" ("method node '" ++ c.name ++ "'"))
    else pure (.method c)
  | .endpoint => (Node.endpoint ∘ EndpointNode.ofConfig) <$> decoded (EndpointConfig.ofValue config)

/-- Builds a node of a registered type. -/
def Registry.create (r : Registry) (nodeType : String) (config : Value) :
    Except ConfigError Node :=
  match r.find? nodeType with
  | some reg => reg.kind.create config
  | none => .error (.unknownNodeType nodeType)

/-- The configured data type of an item: its trimmed text, when not blank. -/
def ItemConfig.configuredDatatype (c : ItemConfig) : Option String :=
  if (Text.trim c.datatype).isEmpty then none else some (Text.trim c.datatype)

/-- An item has a static value when its configured value is not empty. -/
def ItemConfig.hasStaticValue (c : ItemConfig) : Bool :=
  !c.value.isEmpty

/-- Coerces a payload to a data type, or leaves it when there is none. -/
def coercePayload (datatype : Option String) (raw : Value) : Except CoercionError Value :=
  match datatype with
  | some d => Variant.toValue <$> coerce d raw
  | none => .ok raw

/-- An item node shapes a message for its variable. -/
def ItemConfig.process (c : ItemConfig) (m : Message) : Except CoercionError Message := do
  let target := m.datatypeOverride.orElse fun _ => c.configuredDatatype
  let stamped := { m with
    topic := some c.item
    datatype := c.configuredDatatype
    browseName := if c.name.isEmpty then none else some c.name }
  if c.hasStaticValue && m.payloadIsEmpty then
    return { stamped with payload := ← coercePayload target (.str c.value) }
  else if !m.payloadIsEmpty then
    return { stamped with payload := ← coercePayload target m.payload }
  else return stamped

/-- An event node sets the standard subscription on a message. -/
def EventConfig.process (c : EventConfig) (m : Message) : Message :=
  { m with
    eventFilter := some (EventFilter.ofFields eventFields).toValue
    eventFields := some eventFields
    topic := some c.root
    eventTypeIds := some c.eventTypeId }

/-- The configured input arguments, each coerced to its type. -/
def MethodConfig.inputArguments (c : MethodConfig) : Except CoercionError (List MethodArgument) :=
  c.arguments.mapM fun (t, v) => do
    let x ← coerceText t v
    return ⟨t, x.toValue⟩

/-- A method node addresses a call, filling in arguments the message lacks. -/
def MethodConfig.process (c : MethodConfig) (m : Message) : Except CoercionError Message := do
  let args ← match m.inputArguments with
    | some args => pure args
    | none => c.inputArguments
  return { m with
    inputArguments := some args
    topic := some c.objectId
    objectId := some c.objectId
    methodId := some c.methodId }

/-- What a node sends on for a message: a shaped message, nothing, or an error. -/
def Node.onInput (n : Node) (m : Message) : Except NodeError (Option Message) :=
  match n with
  | .item c => (c.process m).map some |>.mapError (.coercion n.nodeType)
  | .event c => .ok (some (c.process m))
  | .method c => (c.process m).map some |>.mapError (.coercion n.nodeType)
  | .endpoint _ => .ok none

/-- The JSON description of a user identity. -/
def UserIdentity.toValue : UserIdentity → Value
  | .anonymous => Value.object [("kind", .str "Anonymous")]
  | .userName u p => Value.object [("kind", .str "UserName"), ("user", .str u), ("password", .str p)]

/-- A list of texts as JSON. -/
def textList (xs : List String) : Value :=
  .arr (xs.map .str)

/-- The JSON description of a node: its type, name and what it was built with. -/
def Node.describe (n : Node) : Value :=
  let common := [("node_type", Value.str n.nodeType), ("name", .str n.name),
    ("is_endpoint", .bool (n.kind = .endpoint))]
  Value.object (common ++ match n with
    | .item c =>
      [("config", Value.object [("item", .str c.item), ("datatype", .str c.datatype),
          ("value", .str c.value), ("name", .str c.name)]),
        ("has_static_value", .bool c.hasStaticValue),
        ("configured_datatype", match c.configuredDatatype with
          | some d => .str d
          | none => .null)]
    | .event c =>
      [("config", Value.object [("root", .str c.root), ("eventtype", .str c.eventType),
          ("customeventtype", .str c.customEventType),
          ("activatecustomevent", .bool c.activateCustomEvent), ("name", .str c.name)]),
        ("event_type_id", .str c.eventTypeId)]
    | .method c =>
      [("config", Value.object [("objectid", .str c.objectId), ("methodid", .str c.methodId),
          ("name", .str c.name), ("arg0type", .str c.arg0type), ("arg0value", .str c.arg0value),
          ("arg1type", .str c.arg1type), ("arg1value", .str c.arg1value),
          ("arg2type", .str c.arg2type), ("arg2value", .str c.arg2value)]),
        ("arguments", .arr (c.arguments.map fun (t, v) => textList [t, v])),
        ("input_arguments", match c.inputArguments with
          | .ok args => .arr (args.map MethodArgument.toValue)
          | .error e => e.toValue)]
    | .endpoint e =>
      [("endpoint_url", .str e.endpointUrl), ("security_policy", e.securityPolicy.toValue),
        ("security_mode", .str e.securityMode.name), ("identity", e.identity.toValue),
        ("is_secure", .bool e.isSecure)])

end UaFlow.Flow
