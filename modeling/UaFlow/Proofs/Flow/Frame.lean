import UaFlow.Proofs.Flow.Session
/-!
# What a flow changes in a message

A message that runs through a flow keeps its id and its extra members. Each of its other fields
is owned by some kinds of node: an item sets the topic, the data type, the browse name and the
payload; an event sets the topic and the event filter, fields and type ids; a method sets the
topic and the object and method ids, and the input arguments only when the message has none, so
input arguments once present are never replaced; an endpoint sends nothing on.

A delivered message differs from the injected one only in fields owned by a node on the path it
took (`inject_deliveries_framed`). The frame of one node (`Node.framed_onInput`) composes along a
path (`Framed.trans`), and every invocation of an injection is at the end of a path the message
takes through the wiring (`Engine.Reaches`).
-/

namespace UaFlow.Flow

/-- The fields of a message that nodes set: all but its id and its extra members. -/
inductive Field where
  | topic
  | datatype
  | browseName
  | payload
  | eventFilter
  | eventFields
  | eventTypeIds
  | objectId
  | methodId
  | inputArguments
  deriving DecidableEq

/-- A message `m'` has the same value as `m` in a field. -/
def Field.Agrees : Field → Message → Message → Prop
  | .topic, m, m' => m'.topic = m.topic
  | .datatype, m, m' => m'.datatype = m.datatype
  | .browseName, m, m' => m'.browseName = m.browseName
  | .payload, m, m' => m'.payload = m.payload
  | .eventFilter, m, m' => m'.eventFilter = m.eventFilter
  | .eventFields, m, m' => m'.eventFields = m.eventFields
  | .eventTypeIds, m, m' => m'.eventTypeIds = m.eventTypeIds
  | .objectId, m, m' => m'.objectId = m.objectId
  | .methodId, m, m' => m'.methodId = m.methodId
  | .inputArguments, m, m' => m'.inputArguments = m.inputArguments

theorem Field.agrees_refl (f : Field) (m : Message) : f.Agrees m m := by
  cases f <;> rfl

theorem Field.Agrees.trans {f : Field} {m x y : Message} (h₁ : f.Agrees m x) (h₂ : f.Agrees x y) :
    f.Agrees m y := by
  cases f <;> exact Eq.trans h₂ h₁

/-- The fields a kind of node sets. -/
def NodeKind.fields : NodeKind → List Field
  | .item => [.topic, .datatype, .browseName, .payload]
  | .event => [.topic, .eventFilter, .eventFields, .eventTypeIds]
  | .method => [.topic, .objectId, .methodId, .inputArguments]
  | .endpoint => []

/-- The message `y`, which started as `m`, went through nodes of the kinds `ks` only: it has the
id and the extra members of `m`, agrees with `m` in every field that no kind of `ks` owns, and
has the input arguments of `m` when `m` had some. -/
structure Framed (ks : List NodeKind) (m y : Message) : Prop where
  msgId_eq : y.msgId = m.msgId
  extra_eq : y.extra = m.extra
  agrees : ∀ f : Field, f.Agrees m y ∨ ∃ k ∈ ks, f ∈ k.fields
  inputArguments_kept : ∀ args, m.inputArguments = some args → y.inputArguments = some args

namespace Framed

variable {ks ks' : List NodeKind} {m x y : Message}

theorem refl (m : Message) : Framed [] m m :=
  ⟨rfl, rfl, fun f => .inl (f.agrees_refl m), fun _ h => h⟩

/-- Frames compose along a path: the kinds of both stretches may have set a field. -/
theorem trans (h₁ : Framed ks m x) (h₂ : Framed ks' x y) : Framed (ks ++ ks') m y where
  msgId_eq := h₂.msgId_eq.trans h₁.msgId_eq
  extra_eq := h₂.extra_eq.trans h₁.extra_eq
  agrees f := by
    rcases h₁.agrees f with h₁f | ⟨k, hk, hf⟩
    · rcases h₂.agrees f with h₂f | ⟨k, hk, hf⟩
      · exact .inl (h₁f.trans h₂f)
      · exact .inr ⟨k, List.mem_append_right ks hk, hf⟩
    · exact .inr ⟨k, List.mem_append_left ks' hk, hf⟩
  inputArguments_kept args h := h₂.inputArguments_kept args (h₁.inputArguments_kept args h)

/-- One node of kind `k` frames its output when the output keeps the id, the extra members and
every field that `k` does not own, and keeps input arguments that were present. -/
theorem single {k : NodeKind} (hid : y.msgId = m.msgId) (hextra : y.extra = m.extra)
    (hagrees : ∀ f : Field, f ∉ k.fields → f.Agrees m y)
    (hargs : ∀ args, m.inputArguments = some args → y.inputArguments = some args) :
    Framed [k] m y where
  msgId_eq := hid
  extra_eq := hextra
  agrees f := by
    by_cases hf : f ∈ k.fields
    · exact .inr ⟨k, List.mem_singleton_self k, hf⟩
    · exact .inl (hagrees f hf)
  inputArguments_kept := hargs

end Framed

/-! ## The frame of one node -/

section Nodes

variable {m y : Message}

/-- An item stamps its topic, data type and browse name, and sets the payload or keeps it. -/
theorem ItemConfig.process_shape {c : ItemConfig} (h : c.process m = .ok y) :
    ∃ payload, y = { m with
      topic := some c.item
      datatype := c.configuredDatatype
      browseName := if c.name.isEmpty then none else some c.name
      payload := payload } := by
  unfold ItemConfig.process at h
  -- the static value, the payload coerced, or the payload as it is
  by_cases hstatic : (c.hasStaticValue && m.payloadIsEmpty) = true
  · rw [if_pos hstatic] at h
    obtain ⟨payload, -, h⟩ := bind_eq_ok.mp h
    simp only [pure, Except.pure, Except.ok.injEq] at h
    exact ⟨payload, h.symm⟩
  · rw [if_neg hstatic] at h
    by_cases hpayload : (!m.payloadIsEmpty) = true
    · rw [if_pos hpayload] at h
      obtain ⟨payload, -, h⟩ := bind_eq_ok.mp h
      simp only [pure, Except.pure, Except.ok.injEq] at h
      exact ⟨payload, h.symm⟩
    · rw [if_neg hpayload] at h
      simp only [pure, Except.pure, Except.ok.injEq] at h
      exact ⟨m.payload, h.symm⟩

/-- A method sets its topic and ids, and input arguments only where the message has none. -/
theorem MethodConfig.process_shape {c : MethodConfig} (h : c.process m = .ok y) :
    ∃ args, (∀ present, m.inputArguments = some present → args = present) ∧
      y = { m with
        inputArguments := some args
        topic := some c.objectId
        objectId := some c.objectId
        methodId := some c.methodId } := by
  unfold MethodConfig.process at h
  cases hm : m.inputArguments with
  | some present =>
    -- arguments already present are kept
    simp only [hm, pure, Except.pure, ok_bind, Except.ok.injEq] at h
    refine ⟨present, fun _ hpresent => Option.some.inj hpresent, ?_⟩
    rw [← h]
  | none =>
    simp only [hm] at h
    obtain ⟨args, -, h⟩ := bind_eq_ok.mp h
    simp only [pure, Except.pure, Except.ok.injEq] at h
    refine ⟨args, (fun _ hpresent => by cases hpresent), ?_⟩
    rw [← h]

theorem ItemConfig.framed_process {c : ItemConfig} (h : c.process m = .ok y) : Framed [.item] m y := by
  obtain ⟨payload, rfl⟩ := ItemConfig.process_shape h
  refine Framed.single rfl rfl (fun f hf => ?_) fun _ h => h
  cases f
  -- an owned field contradicts `hf`; the others are kept as they are
  all_goals first
    | exact absurd (by decide) hf
    | rfl

theorem EventConfig.framed_process (c : EventConfig) (m : Message) : Framed [.event] m (c.process m) := by
  refine Framed.single rfl rfl (fun f hf => ?_) fun _ h => h
  cases f
  all_goals first
    | exact absurd (by decide) hf
    | rfl

theorem MethodConfig.framed_process {c : MethodConfig} (h : c.process m = .ok y) :
    Framed [.method] m y := by
  obtain ⟨args, hargs, rfl⟩ := MethodConfig.process_shape h
  refine Framed.single rfl rfl (fun f hf => ?_) fun present hpresent => ?_
  · cases f
    all_goals first
      | exact absurd (by decide) hf
      | rfl
  · rw [hargs present hpresent]

/-- **The frame of one node.** What a node sends on differs from what it received only in the
fields its kind owns. -/
theorem Node.framed_onInput {n : Node} {x y : Message} (h : n.onInput x = .ok (some y)) :
    Framed [n.kind] x y := by
  cases n with
  | item c =>
    obtain ⟨y', hp, hy⟩ := mapError_map_some_eq_ok.mp h
    cases hy
    exact ItemConfig.framed_process hp
  | event c =>
    rw [Node.onInput, Except.ok.injEq, Option.some.injEq] at h
    rw [← h]
    exact EventConfig.framed_process c x
  | method c =>
    obtain ⟨y', hp, hy⟩ := mapError_map_some_eq_ok.mp h
    cases hy
    exact MethodConfig.framed_process hp
  | endpoint c => simp [Node.onInput] at h

end Nodes

/-! ## Paths through the wiring -/

namespace Engine

/-- The message `x` reaches the node `n`, on a message `m` injected at `n₀`, through the nodes
`via` in order: each of them sent a message on to the next along one of its wires. -/
inductive Reaches (e : Engine) (n₀ : String) (m : Message) : List String → String → Message → Prop
  | root : e.isDeployed n₀ = true → Reaches e n₀ m [] n₀ m
  | wire {via : List String} {n t : String} {d : Deployed} {x y : Message} :
      Reaches e n₀ m via n x → e.node? n = some d → d.node.onInput x = .ok (some y) →
      t ∈ d.wires → e.isDeployed t = true → Reaches e n₀ m (via ++ [n]) t y

/-- The kinds of the deployed nodes of a path, in order. -/
def kindsOn (e : Engine) (path : List String) : List NodeKind :=
  path.filterMap fun n => (e.node? n).map fun d => d.node.kind

theorem kindsOn_append_singleton (e : Engine) (via : List String) {n : String} {d : Deployed}
    (hd : e.node? n = some d) : e.kindsOn (via ++ [n]) = e.kindsOn via ++ [d.node.kind] := by
  simp [kindsOn, List.filterMap_append, hd]

/-- **The frame of a path.** The message that reaches a node differs from the injected one only
in fields that a node it went through owns. -/
theorem Reaches.framed {e : Engine} {n₀ n : String} {m x : Message} {via : List String}
    (h : e.Reaches n₀ m via n x) : Framed (e.kindsOn via) m x := by
  induction h with
  | root _ => exact Framed.refl m
  | wire _ hd hout _ _ ih =>
    rw [kindsOn_append_singleton e _ hd]
    exact ih.trans (Node.framed_onInput hout)

theorem exists_of_mem_children {e : Engine} {inv c : String × Message} (hc : c ∈ e.children inv) :
    ∃ d, e.node? inv.1 = some d ∧ d.node.onInput inv.2 = .ok (some c.2) ∧ c.1 ∈ d.wires ∧
      e.isDeployed c.1 = true := by
  unfold children at hc
  split at hc
  · rename_i d hd
    split at hc
    · rename_i out hout
      obtain ⟨t, ht, rfl⟩ := List.mem_map.mp hc
      obtain ⟨hwire, hdep⟩ := List.mem_filter.mp ht
      exact ⟨d, hd, hout, hwire, hdep⟩
    · cases hc
  · cases hc

theorem exists_of_mem_localDeliveries {e : Engine} {inv : String × Message} {dl : Delivery}
    (h : dl ∈ e.localDeliveries inv) :
    dl.source = inv.1 ∧ ∃ d, e.node? inv.1 = some d ∧ d.node.onInput inv.2 = .ok (some dl.message) := by
  unfold localDeliveries at h
  split at h
  · rename_i d hd
    split at h
    · rename_i out hout
      -- with no wires the delivery has no target, otherwise it goes to a wire outside the flow
      have hdl : dl.source = inv.1 ∧ dl.message = out := by
        split at h
        · rw [List.mem_singleton.mp h]
          exact ⟨rfl, rfl⟩
        · obtain ⟨t, -, rfl⟩ := List.mem_map.mp h
          exact ⟨rfl, rfl⟩
      exact ⟨hdl.1, d, hd, by rw [hout, hdl.2]⟩
    · cases h
  · cases h

/-- Every invocation of an injection at `n₀` is at the end of a path from `n₀`. -/
theorem reaches_of_mem_breadthFirst {e : Engine} {n₀ : String} {m : Message} {k : Nat}
    {inv : String × Message} (hdep : e.isDeployed n₀ = true)
    (hinv : inv ∈ breadthFirst e.children [(n₀, m)] k) : ∃ via, e.Reaches n₀ m via inv.1 inv.2 := by
  refine forall_mem_breadthFirst (fun a => ∃ via, e.Reaches n₀ m via a.1 a.2) ?_ ?_ k inv hinv
  · intro r hr
    rw [List.mem_singleton.mp hr]
    exact ⟨[], .root hdep⟩
  · rintro a ⟨via, hreach⟩ c hc
    obtain ⟨d, hd, hout, hwire, hdepc⟩ := exists_of_mem_children hc
    exact ⟨via ++ [a.1], .wire hreach hd hout hwire hdepc⟩

theorem inject_eq_ok {e e' : Engine} {n₀ : String} {m : Message} {ds : List Delivery}
    (h : e.inject n₀ m = .ok (e', ds)) :
    e.isDeployed n₀ = true ∧ ds = (breadthFirst e.children [(n₀, m)] maxHops).flatMap e.localDeliveries := by
  unfold inject at h
  by_cases hdep : e.isDeployed n₀ = true
  · rw [if_pos hdep, run_eq_breadthFirst e rfl, List.nil_append, Except.ok.injEq,
      Prod.mk.injEq] at h
    exact ⟨hdep, h.2.symm⟩
  · rw [if_neg hdep] at h
    cases h

end Engine

/-- **Deliveries keep what no node on their path owns.** Every message an injection of `m` at
`n₀` delivers is sent on by a node, not an endpoint, at the end of a path from `n₀` that the
message took; it has the id and the extra members of `m`, it differs from `m` only in fields that
a node of the path owns, and it has the input arguments of `m` when `m` had some. -/
theorem inject_deliveries_framed {e e' : Engine} {n₀ : String} {m : Message} {ds : List Delivery}
    (h : e.inject n₀ m = .ok (e', ds)) :
    ∀ dl ∈ ds, ∃ via x, e.Reaches n₀ m via dl.source x ∧
      (∃ d, e.node? dl.source = some d ∧ d.node.kind ≠ .endpoint ∧
        d.node.onInput x = .ok (some dl.message)) ∧
      Framed (e.kindsOn (via ++ [dl.source])) m dl.message := by
  intro dl hdl
  obtain ⟨hdep, hds⟩ := Engine.inject_eq_ok h
  rw [hds] at hdl
  obtain ⟨inv, hinv, hdl⟩ := List.mem_flatMap.mp hdl
  obtain ⟨hsource, d, hd, hout⟩ := Engine.exists_of_mem_localDeliveries hdl
  obtain ⟨via, hreach⟩ := Engine.reaches_of_mem_breadthFirst hdep hinv
  rw [← hsource] at hreach hd
  -- an endpoint sends nothing on, so the node that sent `dl` is none
  have hkind : d.node.kind ≠ .endpoint := fun hk => by
    rw [← Node.onInput_eq_ok_none_iff, hout] at hk
    cases hk
  refine ⟨via, inv.2, hreach, ⟨d, hd, hkind, hout⟩, ?_⟩
  rw [Engine.kindsOn_append_singleton e via hd]
  exact hreach.framed.trans (Node.framed_onInput hout)

/-- An event wired to an item and to an id outside the flow: the item delivers what the event
sent it, and the event delivers to the outside id. -/
theorem inject_deliveries_framed_event_item :
    let e : Engine :=
      { nodes := [("a", ⟨.event default, ["b", "out"]⟩), ("b", ⟨.item default, []⟩)], external := [] }
    ∃ e' ds, e.inject "a" { msgId := "m" } = .ok (e', ds) ∧
      ∀ dl ∈ ds, ∃ via x, e.Reaches "a" { msgId := "m" } via dl.source x ∧
        (∃ d, e.node? dl.source = some d ∧ d.node.kind ≠ .endpoint ∧
          d.node.onInput x = .ok (some dl.message)) ∧
        Framed (e.kindsOn (via ++ [dl.source])) { msgId := "m" } dl.message :=
  ⟨_, _, rfl, inject_deliveries_framed rfl⟩

end UaFlow.Flow
