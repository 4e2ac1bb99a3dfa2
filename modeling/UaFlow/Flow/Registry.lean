import UaFlow.Json.Value
/-!
# The node registry

Every kind of node is registered with metadata: its type name, how it shows in the palette, the
category it belongs to, and its ports. Categories form a hierarchy by their paths: a category is
a child of another when its path is longer and starts with the other's.

The registry keeps its registrations in order. The node types are its distinct type names in
sorted order; a type name is served by its most recent registration. The palette has one section
per category that received a registration, in increasing order of the category paths (so a
category comes before its descendants), each listing the types registered in it in registration
order. The standard registry holds the item, event and method nodes under `OPC UA`, and the
endpoint configuration node under `OPC UA > Config`.
-/

namespace UaFlow.Flow

open UaFlow.Json

/-- The kinds of node the library builds. -/
inductive NodeKind where
  | item
  | event
  | method
  | endpoint
  deriving DecidableEq, Inhabited, Repr

/-- A place in the palette hierarchy, by its path of section names. -/
structure Category where
  path : List String
  deriving DecidableEq, Inhabited

/-- The category of the OPC UA nodes. -/
def Category.opcua : Category := ⟨["OPC UA"]⟩

/-- The category of the OPC UA configuration nodes. -/
def Category.opcuaConfig : Category := ⟨["OPC UA", "Config"]⟩

/-- The path of a category written with `>` between its sections. -/
def Category.display (c : Category) : String :=
  " > ".intercalate c.path

/-- A category is a child of another when its path strictly extends the other's. -/
def Category.isChildOf (c other : Category) : Bool :=
  other.path.length < c.path.length && other.path.isPrefixOf c.path

/-- Lexicographic order of paths, a path coming before its extensions. -/
def pathBefore : List String → List String → Bool
  | [], [] => false
  | [], _ :: _ => true
  | _ :: _, [] => false
  | a :: as, b :: bs => decide (a < b) || (a = b && pathBefore as bs)

/-- A port of a node, with an optional description. -/
structure Port where
  name : String
  description : Option String := none
  deriving DecidableEq, Inhabited

/-- How a node type shows in the palette and connects. -/
structure NodeMetadata where
  nodeType : String
  displayName : String
  description : String
  version : String := "0.1.0"
  color : String := "#3FADB5"
  icon : String := "opcua.png"
  category : Category
  tags : List String := []
  inputs : List Port := []
  outputs : List Port := []
  isConfigNode : Bool := false
  deriving DecidableEq, Inhabited

/-- The JSON description of a port. -/
def Port.toValue (p : Port) : Value :=
  Value.object [("name", .str p.name), ("description", match p.description with
    | some d => .str d
    | none => .null)]

/-- The JSON description of node metadata. -/
def NodeMetadata.toValue (m : NodeMetadata) : Value :=
  Value.object [("node_type", .str m.nodeType), ("display_name", .str m.displayName),
    ("description", .str m.description), ("version", .str m.version), ("color", .str m.color),
    ("icon", .str m.icon), ("category", .arr (m.category.path.map .str)),
    ("category_display", .str m.category.display), ("tags", .arr (m.tags.map .str)),
    ("inputs", .arr (m.inputs.map Port.toValue)), ("outputs", .arr (m.outputs.map Port.toValue)),
    ("is_config_node", .bool m.isConfigNode)]

/-- The metadata each kind of node registers with. -/
def NodeKind.metadata : NodeKind → NodeMetadata
  | .item =>
    { nodeType := "OpcUa-Item", displayName := "OpcUa Item", category := .opcua,
      description := "Addresses an OPC UA variable and coerces the payload to its datatype",
      icon := "opcuanodeid.png",
      inputs := [⟨"input", some "Trigger; an empty payload sends the configured value"⟩],
      outputs := [⟨"output", some "Message addressed to the item, for the client node"⟩],
      tags := ["opcua", "item", "read", "write", "variable"] }
  | .event =>
    { nodeType := "OpcUa-Event", displayName := "OpcUa Event", category := .opcua,
      description := "Prepares an event subscription with the standard alarm field list",
      icon := "opcuaevent.png",
      inputs := [⟨"input", none⟩],
      outputs := [⟨"output", some "Message carrying eventFilter, eventFields and eventTypeIds"⟩],
      tags := ["opcua", "event", "alarm", "condition", "subscribe"] }
  | .method =>
    { nodeType := "OpcUa-Method", displayName := "OpcUa Method", category := .opcua,
      description := "Prepares a method call with typed input arguments",
      icon := "opcuamethod.png",
      inputs := [⟨"input", some "Trigger; inputArguments on the message replace the configured ones"⟩],
      outputs := [⟨"output", none⟩],
      tags := ["opcua", "method", "call"] }
  | .endpoint =>
    { nodeType := "OpcUa-Endpoint", displayName := "OpcUa Endpoint", category := .opcuaConfig,
      description := "Endpoint URL, security policy, security mode and credentials for the client",
      tags := ["opcua", "endpoint", "security", "config"], isConfigNode := true }

/-- The type name of a kind of node. -/
def NodeKind.typeName (k : NodeKind) : String :=
  k.metadata.nodeType

/-- A registered node type: its metadata and the kind of node it builds. -/
structure Registration where
  metadata : NodeMetadata
  kind : NodeKind
  deriving DecidableEq, Inhabited

/-- Registrations in the order they were made. -/
structure Registry where
  registrations : List Registration
  deriving DecidableEq, Inhabited

/-- The registry with nothing registered. -/
def Registry.empty : Registry := ⟨[]⟩

/-- Registers a node type. -/
def Registry.register (r : Registry) (reg : Registration) : Registry :=
  ⟨r.registrations ++ [reg]⟩

/-- The standard registry: item, event, method and endpoint nodes, in that order. -/
def Registry.standard : Registry :=
  [NodeKind.item, .event, .method, .endpoint].foldl
    (fun r k => r.register ⟨k.metadata, k⟩) Registry.empty

/-- The most recent registration of a type name. -/
def Registry.find? (r : Registry) (nodeType : String) : Option Registration :=
  r.registrations.reverse.find? fun reg => reg.metadata.nodeType = nodeType

/-- Whether a type name is registered. -/
def Registry.hasNodeType (r : Registry) (nodeType : String) : Bool :=
  (r.find? nodeType).isSome

/-- The metadata of a type name. -/
def Registry.metadata? (r : Registry) (nodeType : String) : Option NodeMetadata :=
  (r.find? nodeType).map Registration.metadata

/-- The registered type names, distinct and sorted. -/
def Registry.nodeTypes (r : Registry) : List String :=
  (r.registrations.map fun reg => reg.metadata.nodeType).eraseDups.mergeSort
    fun a b => decide (a ≤ b)

/-- The categories that received a registration, each once, in first-registration order. -/
def Registry.categories (r : Registry) : List Category :=
  (r.registrations.map fun reg => reg.metadata.category).eraseDups

/-- The types registered in exactly this category, in registration order. -/
def Registry.nodesInCategory (r : Registry) (c : Category) : List String :=
  (r.registrations.filter fun reg => reg.metadata.category = c).map fun reg => reg.metadata.nodeType

/-- The categories that received a registration, in increasing order of their paths. -/
def Registry.sortedCategories (r : Registry) : List Category :=
  r.categories.mergeSort fun a b => !pathBefore b.path a.path

/-- The palette: each category's display text and its types. -/
def Registry.palette (r : Registry) : List (String × List String) :=
  r.sortedCategories.map fun c => (c.display, r.nodesInCategory c)

/-- The types in a category and its descendants, section by section in palette order. -/
def Registry.nodesUnder (r : Registry) (c : Category) : List String :=
  (r.sortedCategories.filter fun c' => c' = c || c'.isChildOf c).flatMap r.nodesInCategory

end UaFlow.Flow
