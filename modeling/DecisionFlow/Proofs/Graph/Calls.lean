import DecisionFlow.Graph.Assembly

/-!
# Calls of flows

The nodes of a graph call flows, whose graphs have nodes that call flows in turn. Since a graph holds
the graphs that it calls, calls are nested in each other to a finite depth, and a called graph is
smaller than the graph that calls it.
-/

set_option autoImplicit false

namespace DecisionFlow

/-! ## Nodes with another callee -/

namespace NodeKind

variable {callee other : Type}

@[simp]
theorem requiredLabels_map (change : callee → other) (kind : NodeKind callee) :
    (kind.map change).requiredLabels = kind.requiredLabels := by
  cases kind <;> rfl

@[simp]
theorem isStart_map (change : callee → other) (kind : NodeKind callee) :
    (kind.map change).isStart = kind.isStart := by
  cases kind <;> rfl

@[simp]
theorem isTerminal_map (change : callee → other) (kind : NodeKind callee) :
    (kind.map change).isTerminal = kind.isTerminal := by
  cases kind <;> rfl

@[simp]
theorem isBranching_map (change : callee → other) (kind : NodeKind callee) :
    (kind.map change).isBranching = kind.isBranching := by
  cases kind <;> rfl

theorem map_id (kind : NodeKind callee) : kind.map id = kind := by
  cases kind <;> rfl

theorem callee?_map (change : callee → other) (kind : NodeKind callee) :
    (kind.map change).callee? = kind.callee?.map change := by
  cases kind <;> rfl

theorem map_eq_output_iff {change : callee → other} {kind : NodeKind callee} {spec : OutputSpec} :
    kind.map change = .output spec ↔ kind = .output spec := by
  cases kind <;> simp [map]

theorem map_eq_tableLookup_iff {change : callee → other} {kind : NodeKind callee}
    {lookup : TableLookup} : kind.map change = .tableLookup lookup ↔ kind = .tableLookup lookup := by
  cases kind <;> simp [map]

/-- The same node before its callee is known. -/
def unresolved (kind : NodeKind callee) : NodeKind Unit :=
  kind.map fun _ => ()

/-- Nodes that were the same before their callees were known are the same after a change of the callees
if their callees are. -/
theorem map_eq_of_unresolved_eq {change : callee → other} {kind kind' : NodeKind callee}
    (same : kind.unresolved = kind'.unresolved)
    (targets : ∀ call call', kind = .subflowCall call → kind' = .subflowCall call' →
      call.flow = call'.flow → call.version = call'.version →
        change call.target = change call'.target) :
    kind.map change = kind'.map change := by
  cases kind with
  | subflowCall call =>
      cases kind' with
      | subflowCall call' =>
          obtain ⟨flow, version, inputs, target⟩ := call
          obtain ⟨flow', version', inputs', target'⟩ := call'
          simp only [unresolved, map, subflowCall.injEq, SubflowCall.mk.injEq, and_true] at same ⊢
          obtain ⟨rfl, rfl, rfl⟩ := same
          exact ⟨rfl, rfl, rfl, targets _ _ rfl rfl rfl rfl⟩
      | _ => cases same
  | _ =>
      cases kind' with
      | subflowCall => cases same
      | _ => cases same <;> rfl

theorem callee?_eq_some_iff {kind : NodeKind callee} {target : callee} :
    kind.callee? = some target ↔ ∃ call, kind = .subflowCall call ∧ call.target = target := by
  cases kind <;> simp [callee?]

theorem ne_call_of_alone {kind : NodeKind callee} (alone : kind.callee? = none)
    (call : SubflowCall callee) : kind ≠ .subflowCall call := by
  rintro rfl
  cases alone

end NodeKind

/-! ## Calls -/

namespace Graph

/-- One of the nodes makes the call. -/
def Calls (nodes : List (Node Graph)) (call : SubflowCall Graph) : Prop :=
  ∃ id, ⟨id, .subflowCall call⟩ ∈ nodes

/-- The call is made by one of the nodes, or in a graph that they call, at any depth. -/
inductive CallsWithin (nodes : List (Node Graph)) : SubflowCall Graph → Prop where
  | own {call : SubflowCall Graph} (calls : Calls nodes call) : CallsWithin nodes call
  | nested {outer inner : SubflowCall Graph} (within : CallsWithin nodes outer)
      (calls : Calls outer.target.nodes inner) : CallsWithin nodes inner

variable {nodes others : List (Node Graph)} {call outer inner : SubflowCall Graph}

@[simp]
theorem not_calls_nil : ¬ Calls [] call := by
  rintro ⟨id, member⟩
  cases member

theorem calls_cons_iff {node : Node Graph} :
    Calls (node :: nodes) call ↔ node.kind = .subflowCall call ∨ Calls nodes call := by
  constructor
  · rintro ⟨id, member⟩
    rcases List.mem_cons.1 member with rfl | member
    · exact .inl rfl
    · exact .inr ⟨id, member⟩
  · rintro (isCall | ⟨id, member⟩)
    · exact ⟨node.id, List.mem_cons.2 (.inl (by rw [← isCall]))⟩
    · exact ⟨id, List.mem_cons_of_mem _ member⟩

theorem CallsWithin.mono (contained : ∀ call, Calls nodes call → Calls others call)
    (within : CallsWithin nodes call) : CallsWithin others call := by
  induction within with
  | own calls => exact .own (contained _ calls)
  | nested _ calls ih => exact .nested ih calls

theorem CallsWithin.head {id : String} : CallsWithin (⟨id, .subflowCall call⟩ :: nodes) call :=
  .own (calls_cons_iff.2 (.inl rfl))

theorem CallsWithin.tail {node : Node Graph} (within : CallsWithin nodes call) :
    CallsWithin (node :: nodes) call :=
  within.mono fun _ calls => calls_cons_iff.2 (.inr calls)

/-- What a called graph calls is called within the caller. -/
theorem CallsWithin.trans (within : CallsWithin nodes outer)
    (deeper : CallsWithin outer.target.nodes inner) : CallsWithin nodes inner := by
  induction deeper with
  | own calls => exact .nested within calls
  | nested _ calls ih => exact .nested ih calls

/-! ## Depth -/

theorem sizeOf_nodes_lt (graph : Graph) : sizeOf graph.nodes < sizeOf graph := by
  obtain ⟨id, version, nodes, edges, index, successors, start⟩ := graph
  simp only [Graph.mk.sizeOf_spec]
  omega

/-- A called graph is smaller than the nodes that hold it. -/
theorem Calls.sizeOf_target_lt (calls : Calls nodes call) : sizeOf call.target < sizeOf nodes := by
  obtain ⟨id, member⟩ := calls
  have smaller := List.sizeOf_lt_of_mem member
  obtain ⟨flow, version, inputs, target⟩ := call
  simp only [Node.mk.sizeOf_spec, NodeKind.subflowCall.sizeOf_spec,
    SubflowCall.mk.sizeOf_spec] at smaller ⊢
  omega

theorem CallsWithin.sizeOf_target_lt (within : CallsWithin nodes call) :
    sizeOf call.target < sizeOf nodes := by
  induction within with
  | own calls => exact calls.sizeOf_target_lt
  | @nested outer inner _ calls ih =>
      have below := calls.sizeOf_target_lt
      have held := sizeOf_nodes_lt outer.target
      omega

/-- What is inherited from called graphs by their callers holds of every graph. -/
theorem induction_on_calls {motive : Graph → Prop}
    (step : ∀ graph, (∀ call, Calls graph.nodes call → motive call.target) → motive graph)
    (graph : Graph) : motive graph := by
  suffices general : ∀ size (graph : Graph), sizeOf graph < size → motive graph from
    general (sizeOf graph + 1) graph (Nat.lt_succ_self _)
  intro size
  induction size with
  | zero => exact fun _ small => absurd small (Nat.not_lt_zero _)
  | succ size ih =>
      intro graph small
      refine step graph fun call calls => ih call.target ?_
      have below := calls.sizeOf_target_lt
      have held := sizeOf_nodes_lt graph
      omega

end Graph

end DecisionFlow
