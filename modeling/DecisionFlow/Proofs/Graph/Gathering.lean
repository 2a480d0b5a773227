import DecisionFlow.Graph.Export
import DecisionFlow.Proofs.Graph.Calls
import Mathlib.Data.List.Nodup
import Mathlib.Order.Nat

/-!
# Gathering called flows

The document of a graph embeds the flows that the graph calls, at every depth, each once. They are
told apart by their keys, so this presupposes that graphs with the same key are the same, and that
none of them has the key of the caller.

Gathering is a depth-first search over graphs that hold each other. A graph that was gathered before
is passed over: all graphs below it have been gathered too, unless the search is still going through
them. The latter cannot happen here, because a graph that the search is going through is larger than
those that it meets on the way.
-/

set_option autoImplicit false

namespace DecisionFlow.Graph

/-- The document of a graph alone. -/
def document (graph : Graph) : FlowDocument :=
  bareDocument graph.id graph.version graph.nodes graph.edges

/-- Graphs that are told apart by their keys, with all graphs that they call. -/
structure Coherent (known : Graph → Prop) : Prop where
  called : ∀ graph, known graph → ∀ call, Calls graph.nodes call → known call.target
  unique : ∀ first second, known first → known second → first.key = second.key → first = second

/-- The documents gathered are those of the given graphs, whose keys are seen beside the root's. -/
structure Gathers (known : Graph → Prop) (root : String) (gathering : Gathering)
    (graphs : List Graph) : Prop where
  documents : gathering.documents = graphs.map document
  seen : ∀ key, key ∈ gathering.seen ↔ key = root ∨ ∃ graph ∈ graphs, graph.key = key
  known : ∀ graph ∈ graphs, known graph
  distinct : (graphs.map key).Nodup

/-- What graphs below a certain size call is among the graphs. -/
def ClosedBelow (size : Nat) (graphs : List Graph) : Prop :=
  ∀ graph ∈ graphs, sizeOf graph < size → ∀ call, Calls graph.nodes call → call.target ∈ graphs

/-- Gathering has added graphs below a certain size, and with them what they call. -/
structure Adds (known : Graph → Prop) (root : String) (size : Nat) (graphs later : List Graph)
    (gathering : Gathering) : Prop where
  gathers : Gathers known root gathering (graphs ++ later)
  smaller : ∀ other ∈ later, sizeOf other < size
  closed : ∀ bound, size ≤ bound → ClosedBelow bound graphs → ClosedBelow bound (graphs ++ later)

/-- Gathering a graph adds the graph, unless it is there, and graphs below it. -/
def GathersBelow (known : Graph → Prop) (root : String) (graph : Graph) : Prop :=
  ∀ gathering graphs, Gathers known root gathering graphs →
    ∃ later, Adds known root (sizeOf graph + 1) graphs later (gather graph gathering) ∧
      graph ∈ graphs ++ later

/-- What the nodes call is among the graphs, unless it was called earlier. -/
def Reaches (earlier : List (String × String)) (graphs : List Graph) (nodes : List (Node Graph)) :
    Prop :=
  ∀ call, Calls nodes call →
    call.target ∈ graphs ∨ (call.target.id, call.target.version) ∈ earlier

section

variable {known : Graph → Prop} {root : String}

theorem gatherNode_of_alone {node : Node Graph} (alone : node.kind.callee? = none)
    (earlier : List (String × String)) (gathering : Gathering) :
    gatherNode earlier node gathering = gathering := by
  obtain ⟨id, kind⟩ := node
  cases kind with
  | subflowCall => cases alone
  | _ => rfl

theorem gatherNode_of_call (id : String) (call : SubflowCall Graph)
    (earlier : List (String × String)) (gathering : Gathering) :
    gatherNode earlier ⟨id, .subflowCall call⟩ gathering =
      if (call.target.id, call.target.version) ∈ earlier then gathering
      else call.target.gather gathering := by
  obtain ⟨flow, version, inputs, target⟩ := call
  simp [gatherNode, gatherKind, gatherCall]

namespace Adds

variable {size : Nat} {graphs later deeper : List Graph} {gathering result : Gathering}

theorem refl (size : Nat) (gathers : Gathers known root gathering graphs) :
    Adds known root size graphs [] gathering := by
  constructor
  · simpa using gathers
  · simp
  · simp

theorem mono {larger : Nat} (isLarger : size ≤ larger)
    (adds : Adds known root size graphs later gathering) :
    Adds known root larger graphs later gathering where
  gathers := adds.gathers
  smaller other member := (adds.smaller other member).trans_le isLarger
  closed bound large := adds.closed bound (isLarger.trans large)

theorem trans (first : Adds known root size graphs later gathering)
    (second : Adds known root size (graphs ++ later) deeper result) :
    Adds known root size graphs (later ++ deeper) result := by
  constructor
  · rw [← List.append_assoc]
    exact second.gathers
  · intro other member
    rcases List.mem_append.1 member with member | member
    · exact first.smaller other member
    · exact second.smaller other member
  · intro bound large isClosed
    rw [← List.append_assoc]
    exact second.closed bound large (first.closed bound large isClosed)

end Adds

theorem Reaches.mono {earlier : List (String × String)} {graphs others : List Graph}
    {nodes : List (Node Graph)} (included : graphs ⊆ others)
    (reaches : Reaches earlier graphs nodes) : Reaches earlier others nodes :=
  fun call calls => (reaches call calls).imp_left fun member => included member

theorem Reaches.cons_alone {earlier : List (String × String)} {graphs : List Graph}
    {node : Node Graph} {rest : List (Node Graph)} (alone : node.kind.callee? = none)
    (reaches : Reaches earlier graphs rest) : Reaches earlier graphs (node :: rest) := by
  intro call calls
  rcases calls_cons_iff.1 calls with isCall | calls
  · exact absurd isCall (NodeKind.ne_call_of_alone alone call)
  · exact reaches call calls

/-- The first of several nodes that call the same flow decides. -/
theorem Reaches.cons_call (coherent : Coherent known) {earlier : List (String × String)}
    {graphs : List Graph} {id : String} {call : SubflowCall Graph} {rest : List (Node Graph)}
    (isKnown : known call.target) (restKnown : ∀ other, Calls rest other → known other.target)
    (own : call.target ∈ graphs ∨ (call.target.id, call.target.version) ∈ earlier)
    (reaches : Reaches (earlier ++ [(call.target.id, call.target.version)]) graphs rest) :
    Reaches earlier graphs (⟨id, .subflowCall call⟩ :: rest) := by
  intro other calls
  rcases calls_cons_iff.1 calls with isCall | calls
  · cases isCall
    exact own
  · rcases reaches other calls with reached | isEarlier
    · exact .inl reached
    · rcases List.mem_append.1 isEarlier with isEarlier | same
      · exact .inr isEarlier
      · obtain ⟨sameId, sameVersion⟩ := Prod.mk.inj (List.mem_singleton.1 same)
        have sameKey : other.target.key = call.target.key := by
          rw [key, key, sameId, sameVersion]
        rw [coherent.unique _ _ (restKnown other calls) isKnown sameKey]
        exact own

/-- Gathering what nodes call, given how their callees are gathered. -/
theorem exists_adds_of_nodes (coherent : Coherent known) {nodes : List (Node Graph)}
    (below : ∀ call, Calls nodes call → known call.target ∧ GathersBelow known root call.target)
    (earlier : List (String × String)) {gathering : Gathering} {graphs : List Graph}
    (gathers : Gathers known root gathering graphs) :
    ∃ later, Adds known root (sizeOf nodes) graphs later (gatherNodes earlier nodes gathering) ∧
      Reaches earlier (graphs ++ later) nodes := by
  induction nodes generalizing earlier with
  | nil => exact ⟨[], .refl _ gathers, fun call calls => absurd calls not_calls_nil⟩
  | cons node rest ih =>
      obtain ⟨id, kind⟩ := node
      have belowRest : ∀ call, Calls rest call →
          known call.target ∧ GathersBelow known root call.target :=
        fun call calls => below call (calls_cons_iff.2 (.inr calls))
      have smaller : sizeOf rest ≤ sizeOf (⟨id, kind⟩ :: rest : List (Node Graph)) := by
        simp only [List.cons.sizeOf_spec]
        omega
      cases alone : kind.callee? with
      | none =>
          obtain ⟨later, adds, reaches⟩ := ih belowRest earlier
          refine ⟨later, ?_, reaches.cons_alone alone⟩
          simpa [gatherNodes, alone, gatherNode_of_alone] using adds.mono smaller
      | some callee =>
          obtain ⟨call, rfl, rfl⟩ := NodeKind.callee?_eq_some_iff.1 alone
          have own : Calls (⟨id, .subflowCall call⟩ :: rest) call := calls_cons_iff.2 (.inl rfl)
          obtain ⟨isKnown, gathersTarget⟩ := below call own
          have restKnown := fun other calls => (belowRest other calls).1
          obtain ⟨later, adds, reaches⟩ :=
            ih belowRest (earlier ++ [(call.target.id, call.target.version)])
          have step : gatherNodes earlier (⟨id, .subflowCall call⟩ :: rest) gathering =
              gatherNode earlier ⟨id, .subflowCall call⟩
                (gatherNodes (earlier ++ [(call.target.id, call.target.version)]) rest gathering) :=
            rfl
          rw [step, gatherNode_of_call]
          split
          next repeated =>
            exact ⟨later, adds.mono smaller,
              .cons_call coherent isKnown restKnown (.inr repeated) reaches⟩
          next =>
            obtain ⟨deeper, addsBelow, isReached⟩ := gathersTarget _ _ adds.gathers
            have targetSmaller := own.sizeOf_target_lt
            refine ⟨later ++ deeper, (adds.mono smaller).trans (addsBelow.mono targetSmaller), ?_⟩
            rw [← List.append_assoc]
            exact .cons_call coherent isKnown restKnown (.inl isReached)
              (reaches.mono (List.subset_append_left _ _))

theorem gather_eq (graph : Graph) (gathering : Gathering) :
    gather graph gathering =
      if graph.key ∈ gathering.seen then gathering
      else gatherNodes [] graph.nodes
        ⟨graph.key :: gathering.seen, gathering.documents ++ [graph.document]⟩ := by
  obtain ⟨id, version, nodes, edges, index, successors, start⟩ := graph
  by_cases seen : flowKey id version ∈ gathering.seen <;> simp [gather, key, document, seen]

/-- A graph that is not there yet is added before those below it. -/
theorem Gathers.add {gathering : Gathering} {graphs : List Graph}
    (gathers : Gathers known root gathering graphs) {graph : Graph} (isKnown : known graph)
    (fresh : graph.key ∉ gathering.seen) :
    Gathers known root ⟨graph.key :: gathering.seen, gathering.documents ++ [graph.document]⟩
      (graphs ++ [graph]) := by
  constructor
  · simp [gathers.documents]
  · intro other
    simp only [List.mem_cons, gathers.seen, List.mem_append, List.not_mem_nil, or_false, or_and_right,
      exists_or, exists_eq_left]
    constructor
    · rintro (rfl | isRoot | gathered)
      · exact .inr (.inr rfl)
      · exact .inl isRoot
      · exact .inr (.inl gathered)
    · rintro (isRoot | gathered | rfl)
      · exact .inr (.inl isRoot)
      · exact .inr (.inr gathered)
      · exact .inl rfl
  · intro other member
    rcases List.mem_append.1 member with member | member
    · exact gathers.known other member
    · rwa [List.mem_singleton.1 member]
  · rw [List.map_append, List.nodup_append]
    refine ⟨gathers.distinct, List.nodup_singleton _, ?_⟩
    intro first member second isLast same
    rw [List.map_singleton, List.mem_singleton] at isLast
    obtain ⟨other, isGathered, rfl⟩ := List.mem_map.1 member
    exact fresh ((gathers.seen _).2 (.inr ⟨other, isGathered, same.trans isLast⟩))

/-- Graphs stay closed when one is added together with what it calls, since what follows it is
smaller. -/
theorem ClosedBelow.cons {graphs later : List Graph} {graph : Graph}
    (smaller : ∀ other ∈ later, sizeOf other < sizeOf graph)
    (reaches : Reaches [] (graphs ++ graph :: later) graph.nodes)
    (closed : ClosedBelow (sizeOf graph) (graphs ++ [graph]) →
      ClosedBelow (sizeOf graph) (graphs ++ graph :: later))
    {bound : Nat} (large : sizeOf graph < bound) (isClosed : ClosedBelow bound graphs) :
    ClosedBelow bound (graphs ++ graph :: later) := by
  have isBelow : ClosedBelow (sizeOf graph) (graphs ++ [graph]) := by
    intro other member lower call calls
    rcases List.mem_append.1 member with member | isGraph
    · exact List.mem_append_left _ (isClosed other member (lower.trans large) call calls)
    · exact absurd lower (List.mem_singleton.1 isGraph ▸ lt_irrefl _)
  intro other member lower call calls
  rcases List.mem_append.1 member with earlier | member
  · exact List.mem_append_left _ (isClosed other earlier lower call calls)
  · rcases List.mem_cons.1 member with rfl | isLater
    · exact (reaches call calls).resolve_right List.not_mem_nil
    · exact closed isBelow other (List.mem_append_right _ member) (smaller other isLater) call calls

/-- Known graphs are gathered with everything below them. -/
theorem gathersBelow (coherent : Coherent known) (apart : ∀ graph, known graph → graph.key ≠ root)
    {graph : Graph} (isKnown : known graph) : GathersBelow known root graph := by
  induction graph using induction_on_calls with
  | step graph ih =>
      intro gathering graphs gathers
      rw [gather_eq]
      split
      next seen =>
        refine ⟨[], .refl _ gathers, ?_⟩
        obtain ⟨other, member, same⟩ := ((gathers.seen _).1 seen).resolve_left (apart graph isKnown)
        have isGraph := coherent.unique _ _ (gathers.known other member) isKnown same
        simpa [isGraph] using member
      next fresh =>
        obtain ⟨later, adds, reaches⟩ := exists_adds_of_nodes coherent
          (fun call calls => ⟨coherent.called graph isKnown call calls,
            ih call calls (coherent.called graph isKnown call calls)⟩) []
          (gathers.add isKnown fresh)
        have held := sizeOf_nodes_lt graph
        have gathered := adds.gathers
        have closed := adds.closed (sizeOf graph) held.le
        have smaller := fun other member => (adds.smaller other member).trans held
        rw [List.append_assoc, List.singleton_append] at gathered reaches closed
        refine ⟨graph :: later, ⟨gathered, ?_, ?_⟩, by simp⟩
        · refine List.forall_mem_cons.2 ⟨Nat.lt_succ_self _, ?_⟩
          intro other member
          exact (smaller other member).trans (Nat.lt_succ_self _)
        · intro bound large
          exact .cons smaller reaches closed large

end

/-! ## The document of a graph -/

/-- **A document embeds every called flow once.** -/
theorem exists_gathered {graph : Graph}
    (unique : ∀ call other, CallsWithin graph.nodes call → CallsWithin graph.nodes other →
      call.target.key = other.target.key → call.target = other.target)
    (apart : ∀ call, CallsWithin graph.nodes call → call.target.key ≠ graph.key) :
    ∃ graphs : List Graph, graph.toDocument.subflows = graphs.map document ∧
      ((graph :: graphs).map key).Nodup ∧
        ∀ inner, inner ∈ graphs ↔ ∃ call, CallsWithin graph.nodes call ∧ call.target = inner := by
  let known : Graph → Prop := fun inner => ∃ call, CallsWithin graph.nodes call ∧ call.target = inner
  have coherent : Coherent known := by
    constructor
    · rintro _ ⟨outer, within, rfl⟩ call calls
      exact ⟨call, .nested within calls, rfl⟩
    · rintro _ _ ⟨call, within, rfl⟩ ⟨other, otherWithin, rfl⟩ same
      exact unique call other within otherWithin same
  have isApart : ∀ inner, known inner → inner.key ≠ graph.key := by
    rintro _ ⟨call, within, rfl⟩
    exact apart call within
  have start : Gathers known graph.key ⟨[graph.key], []⟩ [] :=
    ⟨rfl, by simp, by simp, List.nodup_nil⟩
  have own : ∀ call, Calls graph.nodes call → known call.target :=
    fun call calls => ⟨call, .own calls, rfl⟩
  obtain ⟨graphs, adds, reaches⟩ := exists_adds_of_nodes coherent
    (fun call calls => ⟨own call calls, gathersBelow coherent isApart (own call calls)⟩) [] start
  have gathered := adds.gathers
  refine ⟨graphs, gathered.documents, ?_, fun inner => ⟨gathered.known inner, ?_⟩⟩
  · refine List.nodup_cons.2 ⟨?_, gathered.distinct⟩
    intro member
    obtain ⟨inner, isGathered, same⟩ := List.mem_map.1 member
    exact isApart inner (gathered.known inner isGathered) same
  · rintro ⟨call, within, rfl⟩
    induction within with
    | own calls => exact (reaches _ calls).resolve_right List.not_mem_nil
    | nested _ calls isGathered =>
        have closed := adds.closed (sizeOf graph.nodes) le_rfl (by simp [ClosedBelow])
        exact closed _ isGathered (adds.smaller _ isGathered) _ calls

end DecisionFlow.Graph
