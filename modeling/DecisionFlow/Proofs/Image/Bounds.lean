import DecisionFlow.Decimal.Reading
import DecisionFlow.Proofs.Graph.Alike

/-!
# What fits an image

Where graphs are held, lengths and positions have sixty-four bits and roundings have thirty-two, and an
image has no place for more. What this says about a graph is said part by part, and of the graphs that
it calls, at any depth, as of itself (`GraphFits`). The order of an index plays no part in it.
-/

set_option autoImplicit false

namespace DecisionFlow.Image

open DecisionFlow.Graph (Calls CallsWithin)

variable {α : Type}

/-! ## Numbers, texts and lists -/

/-- A signed number of thirty-two bits. -/
def IntFits (value : Int) : Prop :=
  -0x80000000 ≤ value ∧ value < 0x80000000

instance : DecidablePred IntFits := fun _ => inferInstanceAs (Decidable (_ ∧ _))

/-- A text whose length has sixty-four bits. -/
def TextFits (text : String) : Prop :=
  text.utf8ByteSize < Decimal.wordBound

instance : DecidablePred TextFits := fun _ => inferInstanceAs (Decidable (_ < _))

/-- A list whose length has sixty-four bits. -/
def ListFits (fits : α → Prop) (items : List α) : Prop :=
  items.length < Decimal.wordBound ∧ ∀ item ∈ items, fits item

instance {fits : α → Prop} [DecidablePred fits] : DecidablePred (ListFits fits) := fun _ =>
  inferInstanceAs (Decidable (_ ∧ _))

theorem ListFits.perm {fits : α → Prop} {items others : List α} (all : ListFits fits items)
    (perm : items.Perm others) : ListFits fits others :=
  ⟨perm.length_eq ▸ all.1, fun item member => all.2 item (perm.mem_iff.2 member)⟩

/-- What is carried over item by item is carried over to the list. -/
theorem ListFits.inStep {fits : α → Prop} {related : α → α → Prop} {items others : List α}
    (all : ListFits fits items) (inStep : List.Forall₂ related items others)
    (carry : ∀ item other, related item other → fits item → fits other) : ListFits fits others := by
  obtain ⟨short, each⟩ := all
  refine ⟨inStep.length_eq ▸ short, ?_⟩
  clear short
  induction inStep with
  | nil => exact fun _ member => absurd member List.not_mem_nil
  | cons here _ ih =>
      rw [List.forall_mem_cons] at each ⊢
      exact ⟨carry _ _ here each.1, ih each.2⟩

/-! ## Values, expressions and tables -/

def ValueFits : Value → Prop
  | .string text => TextFits text
  | .double _ | .bool _ | .null => True

instance : DecidablePred ValueFits
  | .string text => inferInstanceAs (Decidable (TextFits text))
  | .double _ | .bool _ | .null => .isTrue trivial

def ExpressionFits : Expression → Prop
  | .binary _ left right => ExpressionFits left ∧ ExpressionFits right
  | .not operand => ExpressionFits operand
  | .literal value => ValueFits value
  | .field name => TextFits name
  | .node reference => TextFits reference

instance decidableExpressionFits : DecidablePred ExpressionFits
  | .binary _ left right =>
    have := decidableExpressionFits left
    have := decidableExpressionFits right
    inferInstanceAs (Decidable (ExpressionFits left ∧ ExpressionFits right))
  | .not operand => decidableExpressionFits operand
  | .literal value => inferInstanceAs (Decidable (ValueFits value))
  | .field name => inferInstanceAs (Decidable (TextFits name))
  | .node reference => inferInstanceAs (Decidable (TextFits reference))

def NamedFits (named : List (String × Expression)) : Prop :=
  ListFits (fun entry => TextFits entry.1 ∧ ExpressionFits entry.2) named

instance : DecidablePred NamedFits := fun _ => inferInstanceAs (Decidable (ListFits _ _))

def CellFits : Cell → Prop
  | .literal value => ValueFits value
  | .wildcard => True

instance : DecidablePred CellFits
  | .literal value => inferInstanceAs (Decidable (ValueFits value))
  | .wildcard => .isTrue trivial

def TableFits (table : DecisionTable) : Prop :=
  ListFits TextFits table.columns ∧ ListFits (ListFits CellFits) table.rows

instance : DecidablePred TableFits := fun _ => inferInstanceAs (Decidable (_ ∧ _))

/-! ## Nodes and edges -/

def RequestFits : VersionRequest → Prop
  | .exact version => TextFits version
  | .any => True

instance : DecidablePred RequestFits
  | .exact version => inferInstanceAs (Decidable (TextFits version))
  | .any => .isTrue trivial

def LookupFits (lookup : TableLookup) : Prop :=
  NamedFits lookup.keys ∧ TextFits lookup.target ∧ ListFits TextFits lookup.extraTargets ∧
    TableFits lookup.table

instance : DecidablePred LookupFits := fun _ => inferInstanceAs (Decidable (_ ∧ _))

def OutputFits (spec : OutputSpec) : Prop :=
  ExpressionFits spec.output ∧ (∀ message ∈ spec.message, ExpressionFits message) ∧
    NamedFits spec.extras

instance : DecidablePred OutputFits := fun _ => inferInstanceAs (Decidable (_ ∧ _))

section

variable {callee : Type}

/-- A call, without the flow that is called. -/
def CallFits (call : SubflowCall callee) : Prop :=
  TextFits call.flow ∧ RequestFits call.version ∧ NamedFits call.inputs

instance : DecidablePred (@CallFits callee) := fun _ => inferInstanceAs (Decidable (_ ∧ _))

def KindFits : NodeKind callee → Prop
  | .start => True
  | .input field => TextFits field
  | .conditional predicate => ExpressionFits predicate
  | .arithmetic expression rounding =>
    ExpressionFits expression ∧ ∀ precision ∈ rounding, IntFits precision
  | .stringTransform _ source => ExpressionFits source
  | .tableLookup lookup => LookupFits lookup
  | .subflowCall call => CallFits call
  | .output spec => OutputFits spec

instance : DecidablePred (@KindFits callee)
  | .start => .isTrue trivial
  | .input field => inferInstanceAs (Decidable (TextFits field))
  | .conditional predicate => inferInstanceAs (Decidable (ExpressionFits predicate))
  | .arithmetic _ _ => inferInstanceAs (Decidable (_ ∧ _))
  | .stringTransform _ source => inferInstanceAs (Decidable (ExpressionFits source))
  | .tableLookup lookup => inferInstanceAs (Decidable (LookupFits lookup))
  | .subflowCall call => inferInstanceAs (Decidable (CallFits call))
  | .output spec => inferInstanceAs (Decidable (OutputFits spec))

def NodeFits (node : Node callee) : Prop :=
  TextFits node.id ∧ KindFits node.kind

instance : DecidablePred (@NodeFits callee) := fun _ => inferInstanceAs (Decidable (_ ∧ _))

end

def EdgeFits (edge : Edge) : Prop :=
  TextFits edge.source ∧ TextFits edge.target

instance : DecidablePred EdgeFits := fun _ => inferInstanceAs (Decidable (_ ∧ _))

def SuccessorsFits (successors : Successors) : Prop :=
  ∀ position ∈ successors.targets, position < Decimal.wordBound

instance : DecidablePred SuccessorsFits := fun _ => inferInstanceAs (Decidable (∀ _ ∈ _, _))

def EntryFits (entry : String × Nat) : Prop :=
  TextFits entry.1 ∧ entry.2 < Decimal.wordBound

instance : DecidablePred EntryFits := fun _ => inferInstanceAs (Decidable (_ ∧ _))

/-! ## Graphs -/

/-- The parts of a graph, without what is called. -/
structure PartsFit (graph : Graph) : Prop where
  id : TextFits graph.id
  version : TextFits graph.version
  nodes : ListFits NodeFits graph.nodes
  edges : ListFits EdgeFits graph.edges
  index : ListFits EntryFits graph.index.entries
  successors : ListFits SuccessorsFits graph.successors
  start : graph.start < Decimal.wordBound

/-- The graph and everything that is called within it. -/
structure GraphFits (graph : Graph) : Prop where
  parts : PartsFit graph
  within : ∀ call, CallsWithin graph.nodes call → PartsFit call.target

variable {graph other : Graph} {call : SubflowCall Graph}

theorem GraphFits.target (fits : GraphFits graph) (calls : Calls graph.nodes call) :
    GraphFits call.target where
  parts := fits.within call (.own calls)
  within inner deeper := fits.within inner (.trans (.own calls) deeper)

theorem GraphFits.of_target (parts : PartsFit graph)
    (target : ∀ call, Calls graph.nodes call → GraphFits call.target) : GraphFits graph := by
  refine ⟨parts, fun call within => ?_⟩
  suffices fits : GraphFits call.target from fits.parts
  induction within with
  | own calls => exact target _ calls
  | nested _ calls ih => exact ih.target calls

/-! ### Alike graphs -/

/-- What a node calls does not matter for whether it fits. -/
theorem nodeFits_bareNode_iff {node : Node Graph} : NodeFits (Graph.bareNode node) ↔ NodeFits node := by
  obtain ⟨id, kind⟩ := node
  cases kind <;> rfl

theorem NodeFits.alike {node other : Node Graph} (alike : Graph.NodeAlike node other)
    (fits : NodeFits node) : NodeFits other := by
  rwa [← nodeFits_bareNode_iff, ← alike.bareNode_eq, nodeFits_bareNode_iff]

theorem PartsFit.alike (fits : PartsFit graph) (alike : graph.Alike other) : PartsFit other := by
  obtain ⟨id, version, nodes, edges, index, successors, start⟩ := graph
  obtain ⟨rfl, rfl, nodes, rfl, index, rfl, rfl⟩ := alike
  exact {
    id := fits.id
    version := fits.version
    nodes := fits.nodes.inStep (Graph.nodesAlike_iff_forall₂.1 nodes) fun _ _ => NodeFits.alike
    edges := fits.edges
    index := fits.index.perm (PositionIndex.agrees_iff_perm.1 index)
    successors := fits.successors
    start := fits.start }

theorem GraphFits.alike (fits : GraphFits graph) (alike : graph.Alike other) :
    GraphFits other where
  parts := fits.parts.alike alike
  within _ within := by
    obtain ⟨own, ownWithin, alikeCall⟩ := alike.nodesAlike.callsWithin within
    exact (fits.within own ownWithin).alike alikeCall.target

end DecisionFlow.Image
