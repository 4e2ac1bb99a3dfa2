import Mathlib
import UaFlow.Proofs.Flow.Run
import UaFlow.Proofs.Except
/-!
# What a session of injections keeps

A session deploys a flow and then injects messages, one call after another, each at any id. A
call at an id that names no deployed node fails and leaves the engine as it was; any other call
performs the invocations of its tree, the first `maxHops` of them in breadth-first order.

Over the whole session the engine's accounts stay exact (`Engine.Accounts`): every invocation is
counted once as processed, the failures and the messages sent on are counted by what the node
answered, every other invocation is one of an endpoint, and the state recorded for a node is the
one its most recent invocation left. The deployed nodes, their wires and the external nodes never
change. Each step of a run keeps these accounts (`Accounts.afterInvoke`), so each injection does
(`Accounts.injectStep`), and a deployed flow starts with them (`accounts_deploy`).
-/

namespace UaFlow.Flow

/-! ## Tables keyed by id -/

section Upsert

variable {α : Type}

theorem lookup_cons_eq (k n : String) (v : α) (l : List (String × α)) :
    ((k, v) :: l).lookup n = if n = k then some v else l.lookup n := by
  rw [List.lookup_cons]
  by_cases hn : n = k
  · subst hn
    rw [beq_self_eq_true, if_pos rfl]
  · rw [beq_eq_false_iff_ne.mpr hn, if_neg hn]

theorem lookup_upsert (k n : String) (v : α) (l : List (String × α)) :
    (upsert k v l).lookup n = if n = k then some v else l.lookup n := by
  induction l with
  | nil => rw [upsert, lookup_cons_eq, List.lookup_nil]
  | cons p l ih =>
    obtain ⟨k', v'⟩ := p
    unfold upsert
    by_cases hk : k' = k
    · -- the entry of `k` is replaced in place
      subst hk
      rw [if_pos rfl, lookup_cons_eq, lookup_cons_eq]
      by_cases hn : n = k' <;> simp [hn]
    · rw [if_neg hk, lookup_cons_eq, lookup_cons_eq, ih]
      by_cases hn : n = k'
      · subst hn
        simp [hk]
      · simp [hn]

theorem mem_upsert {k : String} {v : α} {l : List (String × α)} {p : String × α}
    (h : p ∈ upsert k v l) : p.1 = k ∨ p ∈ l := by
  induction l with
  | nil =>
    rw [upsert, List.mem_singleton] at h
    exact .inl (by rw [h])
  | cons q l ih =>
    unfold upsert at h
    split at h
    · rcases List.mem_cons.mp h with rfl | h
      · exact .inl rfl
      · exact .inr (List.mem_cons_of_mem q h)
    · rcases List.mem_cons.mp h with rfl | h
      · exact .inr List.mem_cons_self
      · exact (ih h).imp_right (List.mem_cons_of_mem q)

end Upsert

/-- A node sends nothing on, without failing, exactly when it is an endpoint. -/
theorem Node.onInput_eq_ok_none_iff (n : Node) (m : Message) :
    n.onInput m = .ok none ↔ n.kind = .endpoint := by
  cases n with
  | item c => simp [Node.onInput, Node.kind, mapError_map_some_eq_ok]
  | event c => simp [Node.onInput, Node.kind]
  | method c => simp [Node.onInput, Node.kind, mapError_map_some_eq_ok]
  | endpoint c => simp [Node.onInput, Node.kind]

namespace Engine

/-! ## What an invocation does -/

/-- What the node of an invocation answers; nothing when its id names no deployed node. -/
def answer? (e : Engine) (inv : String × Message) : Option (Except NodeError (Option Message)) :=
  (e.node? inv.1).map fun d => d.node.onInput inv.2

/-- Whether the node of an invocation fails. -/
def failsOn (e : Engine) (inv : String × Message) : Bool :=
  match e.answer? inv with
  | some (.error _) => true
  | _ => false

/-- Whether the node of an invocation sends a message on. -/
def emitsOn (e : Engine) (inv : String × Message) : Bool :=
  match e.answer? inv with
  | some (.ok (some _)) => true
  | _ => false

/-- Whether the node of an invocation is an endpoint. -/
def atEndpoint (e : Engine) (inv : String × Message) : Bool :=
  match e.node? inv.1 with
  | some d => d.node.kind = .endpoint
  | none => false

/-- The state an invocation leaves its node in: the error's text when it fails, clean otherwise. -/
def stateOf (e : Engine) (inv : String × Message) : NodeState :=
  match e.answer? inv with
  | some (.error err) => .error err.message
  | _ => .clean

/-- The state of node `n` after the invocations `invs`: the one its most recent invocation left,
and none when it was never invoked. -/
def lastState (e : Engine) (invs : List (String × Message)) (n : String) : Option NodeState :=
  (invs.filter fun inv => inv.1 = n).getLast?.map e.stateOf

theorem node?_congr {e e' : Engine} (h : e'.nodes = e.nodes) : e'.node? = e.node? := by
  funext id
  rw [node?, node?, h]

theorem isDeployed_congr {e e' : Engine} (h : e'.nodes = e.nodes) : e'.isDeployed = e.isDeployed := by
  funext id
  rw [isDeployed, isDeployed, node?_congr h]

theorem exists_node?_of_isDeployed {e : Engine} {id : String} (h : e.isDeployed id = true) :
    ∃ d, e.node? id = some d :=
  Option.isSome_iff_exists.mp h

/-- One invocation at a deployed node: it is counted as processed, and as a failure or as a
message sent on by what the node answers, and the node takes the state the invocation leaves.
The classification is read in `e₀`, any engine with the same nodes. -/
theorem afterInvoke_of_node? {e e₀ : Engine} {inv : String × Message} {d : Deployed}
    (hn : e.nodes = e₀.nodes) (hd : e₀.node? inv.1 = some d) :
    e.afterInvoke inv = { e with
      states := upsert inv.1 (e₀.stateOf inv) e.states,
      stats := { processed := e.stats.processed + 1,
                 emitted := e.stats.emitted + if e₀.emitsOn inv then 1 else 0,
                 failed := e.stats.failed + if e₀.failsOn inv then 1 else 0 } } := by
  have hd' : e.node? inv.1 = some d := by
    rw [node?_congr hn]
    exact hd
  unfold afterInvoke invoke stateOf emitsOn failsOn answer?
  rw [hd', hd]
  cases ho : d.node.onInput inv.2 with
  | error err => simp [ho]
  | ok out =>
    cases out with
    | none => simp [ho]
    | some out => simp [ho]

/-- Each invocation at a deployed node is exactly one of a failure, a message sent on, and an
invocation of an endpoint. -/
theorem emitsOn_add_failsOn_add_atEndpoint {e : Engine} {inv : String × Message} {d : Deployed}
    (hd : e.node? inv.1 = some d) :
    ((if e.emitsOn inv then 1 else 0) + (if e.failsOn inv then 1 else 0) +
      if e.atEndpoint inv then 1 else 0) = 1 := by
  have hnone := Node.onInput_eq_ok_none_iff d.node inv.2
  unfold emitsOn failsOn atEndpoint answer?
  rw [hd]
  cases ho : d.node.onInput inv.2 with
  | error err =>
    have hkind : d.node.kind ≠ .endpoint := fun hk => by
      rw [← hnone, ho] at hk
      cases hk
    simp [ho, hkind]
  | ok out =>
    cases out with
    | none => simp [← hnone, ho]
    | some out =>
      have hkind : d.node.kind ≠ .endpoint := fun hk => by
        rw [← hnone, ho] at hk
        cases hk
      simp [ho, hkind]

theorem lastState_append_singleton (e : Engine) (invs : List (String × Message))
    (inv : String × Message) (n : String) :
    e.lastState (invs ++ [inv]) n = if n = inv.1 then some (e.stateOf inv) else e.lastState invs n := by
  unfold lastState
  rw [List.filter_append]
  by_cases hn : n = inv.1
  · simp [hn]
  · have hfilter : [inv].filter (fun x => x.1 = n) = [] := by simp [Ne.symm hn]
    rw [hfilter, List.append_nil, if_neg hn]

/-- Invocations at deployed nodes: each is one of a failure, a message sent on, and an invocation
of an endpoint. -/
theorem length_eq_countP {e : Engine} {invs : List (String × Message)}
    (h : ∀ inv ∈ invs, e.isDeployed inv.1 = true) :
    invs.length = invs.countP e.emitsOn + invs.countP e.failsOn + invs.countP e.atEndpoint := by
  induction invs with
  | nil => rfl
  | cons inv invs ih =>
    obtain ⟨d, hd⟩ := exists_node?_of_isDeployed (h inv List.mem_cons_self)
    have hone := emitsOn_add_failsOn_add_atEndpoint hd
    have hrest := ih fun x hx => h x (List.mem_cons_of_mem inv hx)
    simp only [List.length_cons, List.countP_cons]
    omega

/-! ## The accounts of an engine -/

/-- The accounts of an engine `e` after the invocations `invs`, read against the deployed flow
`e₀`: the nodes and the external nodes are those of `e₀`, every invocation was at a deployed node,
each counter counts its invocations, and the state of each node is the one its most recent
invocation left. -/
structure Accounts (e₀ : Engine) (invs : List (String × Message)) (e : Engine) : Prop where
  nodes_eq : e.nodes = e₀.nodes
  external_eq : e.external = e₀.external
  deployed : ∀ inv ∈ invs, e₀.isDeployed inv.1 = true
  processed_eq : e.stats.processed = invs.length
  failed_eq : e.stats.failed = invs.countP e₀.failsOn
  emitted_eq : e.stats.emitted = invs.countP e₀.emitsOn
  states_deployed : ∀ p ∈ e.states, e₀.isDeployed p.1 = true
  lookup_states : ∀ n, e.states.lookup n = e₀.lastState invs n

variable {e₀ e : Engine} {invs : List (String × Message)}

/-- Every invocation is counted as processed, as a failure, as a message sent on, or as one of an
endpoint. -/
theorem Accounts.processed_eq_sum (h : Accounts e₀ invs e) :
    e.stats.processed = e.stats.emitted + e.stats.failed + invs.countP e₀.atEndpoint := by
  rw [h.processed_eq, h.emitted_eq, h.failed_eq]
  exact length_eq_countP h.deployed

/-- **The step.** One invocation at a deployed node keeps the accounts. -/
theorem Accounts.afterInvoke {inv : String × Message} (h : Accounts e₀ invs e)
    (hinv : e₀.isDeployed inv.1 = true) : Accounts e₀ (invs ++ [inv]) (e.afterInvoke inv) := by
  obtain ⟨d, hd⟩ := exists_node?_of_isDeployed hinv
  rw [afterInvoke_of_node? h.nodes_eq hd]
  refine ⟨h.nodes_eq, h.external_eq, ?_, ?_, ?_, ?_, ?_, ?_⟩
  · intro x hx
    rcases List.mem_append.mp hx with hx | hx
    · exact h.deployed x hx
    · rw [List.mem_singleton.mp hx]
      exact hinv
  · rw [List.length_append, List.length_singleton, h.processed_eq]
  · rw [List.countP_append, List.countP_singleton, h.failed_eq]
  · rw [List.countP_append, List.countP_singleton, h.emitted_eq]
  · intro p hp
    rcases mem_upsert hp with hk | hp
    · rw [hk]
      exact hinv
    · exact h.states_deployed p hp
  · intro n
    rw [lookup_upsert, lastState_append_singleton, h.lookup_states n]

/-- **The run.** Invocations at deployed nodes, one after another, keep the accounts. -/
theorem Accounts.foldl {more : List (String × Message)} (h : Accounts e₀ invs e)
    (hmore : ∀ inv ∈ more, e₀.isDeployed inv.1 = true) :
    Accounts e₀ (invs ++ more) (more.foldl Engine.afterInvoke e) := by
  induction more generalizing invs e with
  | nil => simpa using h
  | cons inv more ih =>
    rw [List.foldl_cons, ← List.singleton_append, ← List.append_assoc]
    exact ih (h.afterInvoke (hmore inv List.mem_cons_self))
      fun x hx => hmore x (List.mem_cons_of_mem inv hx)

/-! ## Injections -/

/-- The invocations an injection performs: none when its id names no deployed node, otherwise
the first `maxHops` of its tree in breadth-first order. -/
def invocations (e : Engine) (call : String × Message) : List (String × Message) :=
  if e.isDeployed call.1 then breadthFirst e.children [call] maxHops else []

/-- The engine after a call: the one the injection leaves, or the same engine when it fails. -/
def injectStep (e : Engine) (call : String × Message) : Engine :=
  match e.inject call.1 call.2 with
  | .ok (e', _) => e'
  | .error _ => e

/-- The invocations a sequence of calls performs, in order. -/
def sessionInvocations (e : Engine) : List (String × Message) → List (String × Message)
  | [] => []
  | call :: calls => e.invocations call ++ (e.injectStep call).sessionInvocations calls

theorem isDeployed_of_mem_children (e : Engine) {inv c : String × Message} (hc : c ∈ e.children inv) :
    e.isDeployed c.1 = true := by
  unfold children at hc
  split at hc
  · split at hc
    · obtain ⟨t, ht, rfl⟩ := List.mem_map.mp hc
      exact (List.mem_filter.mp ht).2
    · cases hc
  · cases hc

theorem isDeployed_of_mem_invocations {e : Engine} {call inv : String × Message}
    (h : inv ∈ e.invocations call) : e.isDeployed inv.1 = true := by
  unfold invocations at h
  split at h
  · rename_i hcall
    refine forall_mem_breadthFirst (fun x => e.isDeployed x.1 = true) ?_ ?_ maxHops inv h
    · intro r hr
      rw [List.mem_singleton.mp hr]
      exact hcall
    · intro a _ c hc
      exact isDeployed_of_mem_children e hc
  · cases h

theorem length_invocations_le (e : Engine) (call : String × Message) :
    (e.invocations call).length ≤ maxHops := by
  unfold invocations
  split
  · exact length_breadthFirst_le _ _
  · exact Nat.zero_le _

/-- An injection is its invocations, one after another. -/
theorem injectStep_eq (e : Engine) (call : String × Message) :
    e.injectStep call = (e.invocations call).foldl Engine.afterInvoke e := by
  obtain ⟨id, m⟩ := call
  unfold injectStep invocations inject
  by_cases hdep : e.isDeployed id = true
  · rw [if_pos hdep, if_pos hdep, run_eq_breadthFirst e rfl]
  · rw [if_neg hdep, if_neg hdep]
    rfl

/-- **An injection keeps the accounts**, adding the invocations it performs. -/
theorem Accounts.injectStep (h : Accounts e₀ invs e) (call : String × Message) :
    Accounts e₀ (invs ++ e.invocations call) (e.injectStep call) := by
  rw [injectStep_eq]
  refine h.foldl fun inv hinv => ?_
  rw [← isDeployed_congr h.nodes_eq]
  exact isDeployed_of_mem_invocations hinv

theorem Accounts.session (h : Accounts e₀ invs e) (calls : List (String × Message)) :
    Accounts e₀ (invs ++ e.sessionInvocations calls) (calls.foldl Engine.injectStep e) := by
  induction calls generalizing invs e with
  | nil => simpa [sessionInvocations] using h
  | cons call calls ih =>
    rw [List.foldl_cons, sessionInvocations, ← List.append_assoc]
    exact ih (h.injectStep call)

/-! ## Deployment -/

/-- A deployed flow has no node states and no counts yet: deploying only adds nodes. -/
theorem deploy_fresh {r : Registry} {defs : List FlowDefinition} (h : Engine.deploy r defs = .ok e₀) :
    e₀.states = [] ∧ e₀.stats = {} := by
  unfold deploy at h
  refine foldlM_invariant (fun e : Engine => e.states = [] ∧ e.stats = {}) ?_ defs _ e₀ h ⟨rfl, rfl⟩
  intro e d e' hstep he
  split at hstep
  · obtain ⟨node, -, hnode⟩ := bind_eq_ok.mp hstep
    cases hnode
    exact he
  · cases hstep
    exact he

theorem accounts_deploy {r : Registry} {defs : List FlowDefinition} (h : Engine.deploy r defs = .ok e₀) :
    Accounts e₀ [] e₀ := by
  obtain ⟨hstates, hstats⟩ := deploy_fresh h
  refine ⟨rfl, rfl, (fun _ hinv => by cases hinv), ?_, ?_, ?_, ?_, ?_⟩
  all_goals simp [hstates, hstats, lastState]

end Engine

/-- **A session keeps exact accounts.** Deploy a flow and make any calls, at any ids with any
messages. Then the failures counted are the invocations whose node failed, the messages sent on
are those whose node sent one, and every other invocation counted as processed was one of an
endpoint. Every node with a state is a deployed node, and its state is the one its most recent
invocation left. The nodes, their wires and the external nodes are those deployed. The next call
adds at most `maxHops` to the processed count, and one at an id that names no deployed node fails
as unknown and leaves the engine as it is. -/
theorem session_accounts {r : Registry} {defs : List FlowDefinition} {e₀ : Engine}
    (hdeploy : Engine.deploy r defs = .ok e₀) (calls : List (String × Message)) :
    let e := calls.foldl Engine.injectStep e₀
    let invs := e₀.sessionInvocations calls
    e.stats.failed = invs.countP e₀.failsOn ∧ e.stats.emitted = invs.countP e₀.emitsOn ∧
      e.stats.processed = e.stats.emitted + e.stats.failed + invs.countP e₀.atEndpoint ∧
      (∀ p ∈ e.states, e₀.isDeployed p.1 = true) ∧ (∀ n, e.states.lookup n = e₀.lastState invs n) ∧
      e.nodes = e₀.nodes ∧ e.external = e₀.external ∧
      ∀ id m, (e.injectStep (id, m)).stats.processed ≤ e.stats.processed + maxHops ∧
        (e.isDeployed id = false → e.inject id m = .error (.unknownNode id) ∧ e.injectStep (id, m) = e) := by
  intro e invs
  have h : Engine.Accounts e₀ invs e := by
    simpa using (Engine.accounts_deploy hdeploy).session calls
  refine ⟨h.failed_eq, h.emitted_eq, h.processed_eq_sum, h.states_deployed, h.lookup_states,
    h.nodes_eq, h.external_eq, fun id m => ⟨?_, fun hdep => ?_⟩⟩
  · -- the next injection performs at most `maxHops` invocations, each counted once
    have hnext := h.injectStep (id, m)
    rw [hnext.processed_eq, List.length_append, ← h.processed_eq]
    exact Nat.add_le_add_left (e.length_invocations_le (id, m)) _
  · have hinject : e.inject id m = .error (.unknownNode id) := by
      rw [Engine.inject, if_neg (by rw [hdep]; decide)]
    exact ⟨hinject, by rw [Engine.injectStep, hinject]⟩

/-- An item node `level` reading `Int32`, wired to a node `out` handled outside the engine. -/
def levelFlow : List FlowDefinition :=
  [⟨"level", "OpcUa-Item", [["out"]], [("datatype", .str "Int32"), ("item", .str "ns=2;i=4")]⟩,
    ⟨"out", "mqtt out", [], []⟩]

/-- The engine `levelFlow` deploys to. -/
def levelEngine : Engine :=
  { nodes := [("level", ⟨.item ⟨"ns=2;i=4", "Int32", "", ""⟩, ["out"]⟩)],
    external := [("out", "mqtt out")] }

/-- Two calls at `level`: a payload beyond the range of `Int32`, then one within it. -/
def levelCalls : List (String × Message) :=
  [("level", { msgId := "big", payload := .num ⟨"3000000000"⟩ }),
    ("level", { msgId := "ok", payload := .num ⟨"5"⟩ })]

/-- A session at an item node wired to an external node: the first call fails at the node and
the second sends its message on, so two invocations are counted, one failure and one message
sent on. -/
theorem session_accounts_item_flow :
    Engine.deploy Registry.standard levelFlow = .ok levelEngine ∧
      (levelCalls.foldl Engine.injectStep levelEngine).stats =
        { processed := 2, emitted := 1, failed := 1 } ∧
      let e₀ := levelEngine
      let e := levelCalls.foldl Engine.injectStep e₀
      let invs := e₀.sessionInvocations levelCalls
      e.stats.failed = invs.countP e₀.failsOn ∧ e.stats.emitted = invs.countP e₀.emitsOn ∧
        e.stats.processed = e.stats.emitted + e.stats.failed + invs.countP e₀.atEndpoint ∧
        (∀ p ∈ e.states, e₀.isDeployed p.1 = true) ∧ (∀ n, e.states.lookup n = e₀.lastState invs n) ∧
        e.nodes = e₀.nodes ∧ e.external = e₀.external ∧
        ∀ id m, (e.injectStep (id, m)).stats.processed ≤ e.stats.processed + maxHops ∧
          (e.isDeployed id = false →
            e.inject id m = .error (.unknownNode id) ∧ e.injectStep (id, m) = e) := by
  have hdeploy : Engine.deploy Registry.standard levelFlow = .ok levelEngine := by cbv
  have hstats : (levelCalls.foldl Engine.injectStep levelEngine).stats =
      { processed := 2, emitted := 1, failed := 1 } := by decide
  exact ⟨hdeploy, hstats, session_accounts hdeploy levelCalls⟩

end UaFlow.Flow
