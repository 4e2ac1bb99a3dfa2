import UaFlow.Flow.Node
/-!
# Flows

A flow is a list of node definitions: an id, a type, output wires (lists of target ids) and the
rest of the members as the node's configuration. Deploying it builds every node whose type is
registered (a later definition with the same id replaces an earlier one) and records the others
as external nodes, handled outside this engine.

Injecting a message into a deployed node runs the flow breadth first: each node the message
reaches shapes it, and what it sends on goes to each of its wires in order. A wire to a deployed
node queues the message there; a wire to any other id is a delivery to that target; a node with
no wires delivers with no target. A failing node records its error as its state and drops the
message. After 1024 node invocations the rest of the queue is dropped, so a run ends on every
wiring. The engine counts the invocations, the messages sent on and the failures.
-/

namespace UaFlow.Flow

open UaFlow.Json

/-- The most invocations one injection performs. -/
def maxHops : Nat := 1024

/-- One node of a flow, as defined. -/
structure FlowDefinition where
  id : String
  nodeType : String
  wires : List (List String)
  config : List (String × Value)
  deriving Inhabited

/-- The shape of a node definition: id, type and optional wires, the rest kept as config. -/
def FlowDefinition.shape : Shape :=
  .record "FlowNodeDefinition"
    [("id", .text, true), ("type", .text, true), ("wires", .list (.list .text), false)] true

/-- The wires of a decoded definition. -/
def wiresOf : Option Value → List (List String)
  | some (.arr outputs) => outputs.map fun
    | .arr targets => targets.filterMap fun
      | .str s => some s
      | _ => none
    | _ => []
  | _ => []

/-- The members of a definition that are not part of its configuration. -/
def FlowDefinition.ownKeys : List String := ["id", "type", "wires"]

/-- A definition from a decoded record. -/
def FlowDefinition.ofDecoded (v : Value) : FlowDefinition :=
  let members := match v with
    | .obj ms => ms
    | _ => []
  ⟨textAt members "id", textAt members "type", wiresOf (Members.find? "wires" members),
    members.filter fun m => !FlowDefinition.ownKeys.contains m.1⟩

/-- Reads the definitions of a flow from its JSON text. -/
def FlowDefinition.ofText (s : String) : Except DecodeError (List FlowDefinition) :=
  (readText (.list FlowDefinition.shape) s).map fun
    | some (.arr items) => items.map FlowDefinition.ofDecoded
    | _ => []

/-- Replaces the entry of a key, or adds one at the end. -/
def upsert {α : Type} (k : String) (v : α) : List (String × α) → List (String × α)
  | [] => [(k, v)]
  | (k', v') :: rest => if k' = k then (k, v) :: rest else (k', v') :: upsert k v rest

/-- A deployed node and its wires, flattened in order. -/
structure Deployed where
  node : Node
  wires : List String
  deriving Inhabited

/-- The state of a node after its most recent invocation. -/
inductive NodeState where
  | clean
  | error (text : String)
  deriving DecidableEq, Inhabited

/-- Counts of invocations, messages sent on, and failures. -/
structure Stats where
  processed : Nat := 0
  emitted : Nat := 0
  failed : Nat := 0
  deriving DecidableEq, Inhabited

/-- A message leaving the engine: its source, its target (none for an unwired node), itself. -/
structure Delivery where
  source : String
  target : Option String
  message : Message
  deriving Inhabited

/-- A deployed flow and what has happened in it. -/
structure Engine where
  nodes : List (String × Deployed)
  external : List (String × String)
  states : List (String × NodeState) := []
  stats : Stats := {}
  deriving Inhabited

/-- Deploys the definitions of a flow. -/
def Engine.deploy (r : Registry) (defs : List FlowDefinition) : Except ConfigError Engine :=
  let add (e : Engine) (d : FlowDefinition) : Except ConfigError Engine :=
    if r.hasNodeType d.nodeType then do
      let node ← r.create d.nodeType (.obj d.config)
      return { e with nodes := upsert d.id ⟨node, d.wires.flatten⟩ e.nodes }
    else return { e with external := upsert d.id d.nodeType e.external }
  defs.foldlM add { nodes := [], external := [] }

/-- Deploys a flow from its JSON text. -/
def Engine.ofText (r : Registry) (s : String) : Except ConfigError Engine := do
  let defs ← (FlowDefinition.ofText s).mapError ConfigError.decode
  Engine.deploy r defs

/-- The deployed node of an id. -/
def Engine.node? (e : Engine) (id : String) : Option Deployed :=
  e.nodes.lookup id

/-- The type of an external node. -/
def Engine.externalType? (e : Engine) (id : String) : Option String :=
  e.external.lookup id

/-- Whether an id names a deployed node. -/
def Engine.isDeployed (e : Engine) (id : String) : Bool :=
  (e.node? id).isSome

/-- The deliveries and queued invocations that a node's output makes. -/
def Engine.route (e : Engine) (source : String) (wires : List String) (out : Message) :
    List Delivery × List (String × Message) :=
  if wires.isEmpty then ([⟨source, none, out⟩], [])
  else
    (wires.filterMap fun t => if e.isDeployed t then none else some ⟨source, some t, out⟩,
      wires.filterMap fun t => if e.isDeployed t then some (t, out) else none)

/-- Performs one invocation: the engine after it, its deliveries and the invocations it queues. -/
def Engine.invoke (e : Engine) (id : String) (m : Message) :
    Engine × List Delivery × List (String × Message) :=
  match e.node? id with
  | none => (e, [], [])
  | some d =>
    let counted := { e.stats with processed := e.stats.processed + 1 }
    match d.node.onInput m with
    | .error err =>
      ({ e with states := upsert id (.error err.message) e.states,
                stats := { counted with failed := counted.failed + 1 } }, [], [])
    | .ok none => ({ e with states := upsert id .clean e.states, stats := counted }, [], [])
    | .ok (some out) =>
      let (ds, next) := e.route id d.wires out
      ({ e with states := upsert id .clean e.states,
                stats := { counted with emitted := counted.emitted + 1 } }, ds, next)

/-- Runs queued invocations breadth first, at most `hops` of them. -/
def Engine.run (e : Engine) : Nat → List (String × Message) → List Delivery → Engine × List Delivery
  | 0, _, acc => (e, acc)
  | _ + 1, [], acc => (e, acc)
  | hops + 1, (id, m) :: queue, acc =>
    let (e', ds, next) := e.invoke id m
    e'.run hops (queue ++ next) (acc ++ ds)

/-- Injects a message into a deployed node, giving the deliveries and the engine after. -/
def Engine.inject (e : Engine) (id : String) (m : Message) : Except NodeError (Engine × List Delivery) :=
  if e.isDeployed id then .ok (e.run maxHops [(id, m)] [])
  else .error (.unknownNode id)

/-- The JSON form of a delivery. -/
def Delivery.toValue (d : Delivery) : Value :=
  Value.object [("source", .str d.source), ("target", match d.target with
    | some t => .str t
    | none => .null), ("message", d.message.toValue)]

/-- The JSON form of the counts. -/
def Stats.toValue (s : Stats) : Value :=
  Value.object [("processed", .num (Number.ofNat s.processed)),
    ("emitted", .num (Number.ofNat s.emitted)), ("failed", .num (Number.ofNat s.failed))]

/-- The JSON form of a node state. -/
def NodeState.toValue : NodeState → Value
  | .clean => .str "Clean"
  | .error t => Value.object [("Error", .str t)]

end UaFlow.Flow
