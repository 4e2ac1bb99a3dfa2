import UaFlow.Flow.Engine
import UaFlow.Proofs.Flow.BreadthFirst
/-!
# Injection runs the invocation tree breadth first

An injection of `m` at `n₀` unfolds a tree of invocations rooted at `(n₀, m)`. An invocation
`(n, x)` whose node sends `y` on has a child `(t, y)` for each of `n`'s wires `t`, in wire order,
that names a deployed node; repeated wires and wires back to `n` give a child each, so the tree
is infinite when the wiring has a cycle. Every other invocation is a leaf.

The queue of an injection is always the next stretch of that tree in breadth-first order, and
each pop is counted before the hop bound is checked, so an injection performs exactly the first
`maxHops` invocations of the tree (all of them, when there are fewer), in that order, and returns
what each of them delivers itself. This is `inject_eq_breadthFirst`.
-/

namespace UaFlow.Flow

namespace Engine

/-- The invocations an invocation leads to: for each wire of its node, in order, that names a
deployed node, that node with the output. An invocation that fails or sends nothing is a leaf. -/
def children (e : Engine) (inv : String × Message) : List (String × Message) :=
  match e.node? inv.1 with
  | some d =>
    match d.node.onInput inv.2 with
    | .ok (some out) => (d.wires.filter e.isDeployed).map fun t => (t, out)
    | _ => []
  | none => []

/-- What an invocation delivers itself: its output with no target when its node has no wires,
otherwise its output to each wire, in order, that names no deployed node. -/
def localDeliveries (e : Engine) (inv : String × Message) : List Delivery :=
  match e.node? inv.1 with
  | some d =>
    match d.node.onInput inv.2 with
    | .ok (some out) =>
      if d.wires.isEmpty then [⟨inv.1, none, out⟩]
      else (d.wires.filter fun t => !e.isDeployed t).map fun t => ⟨inv.1, some t, out⟩
    | _ => []
  | none => []

/-- The engine after one invocation: its counts and node states updated. -/
def afterInvoke (e : Engine) (inv : String × Message) : Engine :=
  (e.invoke inv.1 inv.2).1

private theorem filterMap_deployed (p : String → Bool) (ws : List String) {β : Type}
    (f : String → β) :
    ws.filterMap (fun t => if p t then some (f t) else none) = (ws.filter p).map f ∧
      ws.filterMap (fun t => if p t then none else some (f t)) =
        (ws.filter fun t => !p t).map f := by
  induction ws with
  | nil => exact ⟨rfl, rfl⟩
  | cons w ws ih => by_cases hw : p w <;> simp [hw, ih.1, ih.2]

theorem route_eq (e : Engine) (source : String) (wires : List String) (out : Message) :
    e.route source wires out =
      (if wires.isEmpty then [⟨source, none, out⟩]
        else (wires.filter fun t => !e.isDeployed t).map fun t => ⟨source, some t, out⟩,
      (wires.filter e.isDeployed).map fun t => (t, out)) := by
  unfold route
  cases wires with
  | nil => rfl
  | cons w ws =>
    have hqueued := (filterMap_deployed e.isDeployed (w :: ws) fun t => (t, out)).1
    have hdelivered :=
      (filterMap_deployed e.isDeployed (w :: ws) fun t => (⟨source, some t, out⟩ : Delivery)).2
    simp [hqueued, hdelivered]

/-- One invocation: the engine after it, what it delivers itself and the invocations it queues. -/
theorem invoke_eq (e : Engine) (id : String) (m : Message) :
    e.invoke id m = (e.afterInvoke (id, m), e.localDeliveries (id, m), e.children (id, m)) := by
  unfold afterInvoke localDeliveries children
  cases hd : e.node? id with
  | none => simp [invoke, hd]
  | some d =>
    cases ho : d.node.onInput m with
    | error err => simp [invoke, hd, ho]
    | ok out =>
      cases out with
      | none => simp [invoke, hd, ho]
      | some out => simp [invoke, hd, ho, route_eq]

theorem afterInvoke_nodes (e : Engine) (inv : String × Message) :
    (e.afterInvoke inv).nodes = e.nodes := by
  unfold afterInvoke invoke
  split
  · rfl
  · split <;> rfl

theorem afterInvoke_external (e : Engine) (inv : String × Message) :
    (e.afterInvoke inv).external = e.external := by
  unfold afterInvoke invoke
  split
  · rfl
  · split <;> rfl

/-- The tree of invocations depends on the deployed nodes alone. -/
theorem children_congr {e e' : Engine} (h : e'.nodes = e.nodes) : e'.children = e.children := by
  obtain ⟨nodes, external, states, stats⟩ := e
  obtain ⟨nodes', external', states', stats'⟩ := e'
  cases h
  rfl

theorem localDeliveries_congr {e e' : Engine} (h : e'.nodes = e.nodes) :
    e'.localDeliveries = e.localDeliveries := by
  obtain ⟨nodes, external, states, stats⟩ := e
  obtain ⟨nodes', external', states', stats'⟩ := e'
  cases h
  rfl

/-- A run of the worklist from any queue is the fold of the invocations over the first `hops`
nodes of the forest rooted at the queue, with their own deliveries after `acc`. The engine `e`
only fixes the deployed nodes, which no invocation changes. -/
theorem run_eq_breadthFirst (e : Engine) {e' : Engine} (hn : e'.nodes = e.nodes) (hops : Nat)
    (queue : List (String × Message)) (acc : List Delivery) :
    e'.run hops queue acc =
      ((breadthFirst e.children queue hops).foldl afterInvoke e',
        acc ++ (breadthFirst e.children queue hops).flatMap e.localDeliveries) := by
  induction hops generalizing e' queue acc with
  | zero => simp [run, breadthFirst_zero]
  | succ hops ih =>
    cases queue with
    | nil => simp [run, breadthFirst_nil]
    | cons inv queue =>
      obtain ⟨id, m⟩ := inv
      have hnext := afterInvoke_nodes e' (id, m)
      rw [run, invoke_eq, breadthFirst_cons, children_congr hn, localDeliveries_congr hn]
      simp only
      rw [ih (hnext.trans hn)]
      simp [List.append_assoc]

end Engine

/-- **Injection is breadth-first.** Injecting `m` at a deployed node `n₀` succeeds; the engine
after it is the one the first `maxHops` invocations of the tree rooted at `(n₀, m)` leave, taken in
breadth-first order, and the deliveries are what each of those invocations delivers itself, in the
same order. -/
theorem inject_eq_breadthFirst (e : Engine) (n₀ : String) (m : Message)
    (h : e.isDeployed n₀ = true) :
    e.inject n₀ m =
      .ok ((breadthFirst e.children [(n₀, m)] maxHops).foldl Engine.afterInvoke e,
        (breadthFirst e.children [(n₀, m)] maxHops).flatMap e.localDeliveries) := by
  rw [Engine.inject, if_pos h, Engine.run_eq_breadthFirst e rfl, List.nil_append]

/-- A node wired to itself and to an id outside the flow: its tree is infinite, and the injection
stops after `maxHops` invocations. -/
theorem inject_self_wired_breadthFirst :
    ({ nodes := [("a", ⟨.event default, ["a", "out"]⟩)], external := [] } : Engine).isDeployed "a" ∧
      ({ nodes := [("a", ⟨.event default, ["a", "out"]⟩)], external := [] } : Engine).inject "a"
        { msgId := "m" } =
      .ok ((breadthFirst
          ({ nodes := [("a", ⟨.event default, ["a", "out"]⟩)], external := [] } : Engine).children
          [("a", { msgId := "m" })] maxHops).foldl Engine.afterInvoke
          { nodes := [("a", ⟨.event default, ["a", "out"]⟩)], external := [] },
        (breadthFirst
          ({ nodes := [("a", ⟨.event default, ["a", "out"]⟩)], external := [] } : Engine).children
          [("a", { msgId := "m" })] maxHops).flatMap
          ({ nodes := [("a", ⟨.event default, ["a", "out"]⟩)], external := [] } : Engine).localDeliveries) :=
  ⟨by decide, inject_eq_breadthFirst _ _ _ (by decide)⟩

end UaFlow.Flow
