import DecisionFlow.Proofs.Graph.Calls
import Mathlib.Data.List.Forall2
import Mathlib.Data.List.Nodup

/-!
# Graphs that differ in the order of their indexes

The order in which an index holds its entries has no meaning. Graphs are alike if they agree field by
field, with indexes taken as maps, and so do the graphs that they call (`Graph.Alike`). This is finer
than equality as flows see it: a literal is compared with all its bits, where an undefined number
differs from itself and the two zeros are equal.

Indexes agree as maps exactly if their entries are the same up to the order (`agrees_iff_perm`), and
an index is what writing its entries gives (`ofList_entries`).
-/

set_option autoImplicit false

namespace DecisionFlow

/-! ## Indexes as maps -/

theorem writeEntry_of_notMem {key : String} {position : Nat} {entries : List (String × Nat)}
    (absent : key ∉ entries.map Prod.fst) :
    writeEntry key position entries = entries ++ [(key, position)] := by
  induction entries with
  | nil => rfl
  | cons entry rest ih =>
      rw [List.map_cons, List.mem_cons, not_or] at absent
      rw [writeEntry, if_neg (Ne.symm absent.1), ih absent.2]
      rfl

namespace PositionIndex

variable {index other : PositionIndex}

theorem ext_entries (same : index.entries = other.entries) : index = other := by
  cases index
  cases other
  cases same
  rfl

/-- Entries with new keys are added at the end. -/
theorem entries_foldl_insert {entries : List (String × Nat)} (index : PositionIndex)
    (distinct : ((index.entries ++ entries).map Prod.fst).Nodup) :
    (entries.foldl (fun index entry => index.insert entry.1 entry.2) index).entries =
      index.entries ++ entries := by
  induction entries generalizing index with
  | nil => simp
  | cons entry rest ih =>
      have absent : entry.1 ∉ index.entries.map Prod.fst := by
        rw [List.map_append, List.nodup_append] at distinct
        exact fun member => distinct.2.2 _ member entry.1 (by simp) rfl
      have written : (index.insert entry.1 entry.2).entries = index.entries ++ [entry] :=
        writeEntry_of_notMem absent
      rw [List.foldl_cons, ih, written, List.append_assoc]
      · rfl
      · rwa [written, List.append_assoc]

/-- An index is what writing its entries gives. -/
theorem ofList_entries (index : PositionIndex) : ofList index.entries = index :=
  ext_entries (entries_foldl_insert empty index.distinct)

theorem find?_eq_some_iff {id : String} {position : Nat} :
    index.find? id = some position ↔ (id, position) ∈ index.entries := by
  conv_lhs => rw [← ofList_entries index]
  exact find?_ofList index.distinct

/-- Equality as maps. -/
def Agrees (index other : PositionIndex) : Prop :=
  ∀ id, index.find? id = other.find? id

/-- Indexes agree exactly if they have the same entries up to the order. -/
theorem agrees_iff_perm : Agrees index other ↔ index.entries.Perm other.entries := by
  constructor
  · intro agrees
    refine (List.perm_ext_iff_of_nodup (.of_map _ index.distinct) (.of_map _ other.distinct)).2 ?_
    rintro ⟨id, position⟩
    rw [← find?_eq_some_iff, ← find?_eq_some_iff, agrees id]
  · intro perm id
    refine Option.ext fun position => ?_
    rw [find?_eq_some_iff, find?_eq_some_iff, perm.mem_iff]

end PositionIndex

/-! ## Graphs -/

namespace Graph

mutual

/-- The graphs agree field by field, with indexes taken as maps. -/
protected def Alike : Graph → Graph → Prop
  | ⟨id, version, nodes, edges, index, successors, start⟩, graph =>
    id = graph.id ∧ version = graph.version ∧ NodesAlike nodes graph.nodes ∧
      edges = graph.edges ∧ index.Agrees graph.index ∧ successors = graph.successors ∧
      start = graph.start
termination_by structural graph => graph

def NodesAlike : List (Node Graph) → List (Node Graph) → Prop
  | [], [] => True
  | node :: rest, node' :: rest' => NodeAlike node node' ∧ NodesAlike rest rest'
  | _, _ => False
termination_by structural nodes => nodes

def NodeAlike : Node Graph → Node Graph → Prop
  | ⟨id, kind⟩, node => id = node.id ∧ KindAlike kind node.kind
termination_by structural node => node

/-- Only what a node calls can differ from an equal node. -/
def KindAlike : NodeKind Graph → NodeKind Graph → Prop
  | .subflowCall call, .subflowCall call' => CallAlike call call'
  | kind, kind' => kind = kind'
termination_by structural kind => kind

def CallAlike : SubflowCall Graph → SubflowCall Graph → Prop
  | ⟨flow, version, inputs, target⟩, call =>
    flow = call.flow ∧ version = call.version ∧ inputs = call.inputs ∧ target.Alike call.target
termination_by structural call => call

end

variable {graph other : Graph} {nodes others : List (Node Graph)} {call call' : SubflowCall Graph}

theorem Alike.nodesAlike (alike : graph.Alike other) : NodesAlike graph.nodes other.nodes := by
  obtain ⟨id, version, nodes, edges, index, successors, start⟩ := graph
  exact alike.2.2.1

theorem CallAlike.target (alike : CallAlike call call') : call.target.Alike call'.target := by
  obtain ⟨flow, version, inputs, target⟩ := call
  exact alike.2.2.2

theorem nodesAlike_iff_forall₂ :
    NodesAlike nodes others ↔ List.Forall₂ NodeAlike nodes others := by
  induction nodes generalizing others with
  | nil => cases others <;> simp [NodesAlike]
  | cons node rest ih => cases others <;> simp [NodesAlike, ih]

/-- A call in the one graph is made in the other with an alike callee. -/
theorem NodesAlike.calls (alike : NodesAlike nodes others) (calls : Calls others call) :
    ∃ own, Calls nodes own ∧ CallAlike own call := by
  rw [nodesAlike_iff_forall₂] at alike
  induction alike with
  | nil => exact absurd calls not_calls_nil
  | @cons node node' _ _ here later ih =>
      rcases calls_cons_iff.1 calls with isCall | calls
      · obtain ⟨id, kind⟩ := node
        have alikeKinds := here.2
        rw [isCall] at alikeKinds
        cases kind with
        | subflowCall own => exact ⟨own, calls_cons_iff.2 (.inl rfl), alikeKinds⟩
        | _ => cases alikeKinds
      · obtain ⟨own, ownCalls, alikeCall⟩ := ih calls
        exact ⟨own, calls_cons_iff.2 (.inr ownCalls), alikeCall⟩

/-- So it is at any depth. -/
theorem NodesAlike.callsWithin (alike : NodesAlike nodes others)
    (within : CallsWithin others call) :
    ∃ own, CallsWithin nodes own ∧ CallAlike own call := by
  induction within with
  | own calls =>
      obtain ⟨own, ownCalls, alikeCall⟩ := alike.calls calls
      exact ⟨own, .own ownCalls, alikeCall⟩
  | nested _ calls ih =>
      obtain ⟨outer, ownWithin, alikeOuter⟩ := ih
      obtain ⟨own, ownCalls, alikeCall⟩ := alikeOuter.target.nodesAlike.calls calls
      exact ⟨own, .nested ownWithin ownCalls, alikeCall⟩

theorem nodeAlike_self {node : Node Graph}
    (callee : ∀ call, node.kind = .subflowCall call → call.target.Alike call.target) :
    NodeAlike node node := by
  obtain ⟨id, kind⟩ := node
  refine ⟨rfl, ?_⟩
  cases kind with
  | subflowCall call =>
      obtain ⟨flow, version, inputs, target⟩ := call
      exact ⟨rfl, rfl, rfl, callee _ rfl⟩
  | _ => rfl

theorem Alike.refl (graph : Graph) : graph.Alike graph := by
  induction graph using induction_on_calls with
  | step graph ih =>
      obtain ⟨id, version, nodes, edges, index, successors, start⟩ := graph
      refine ⟨rfl, rfl, nodesAlike_iff_forall₂.2 (List.forall₂_same.2 ?_), rfl, fun _ => rfl, rfl, rfl⟩
      rintro ⟨id, kind⟩ member
      refine nodeAlike_self ?_
      rintro call rfl
      exact ih call ⟨id, member⟩

/-! ## Nodes without what they call -/

/-- The node without what it calls. -/
def bareNode (node : Node Graph) : Node Unit :=
  node.map fun _ => ()

theorem NodeAlike.bareNode_eq {node again : Node Graph} (alike : NodeAlike node again) :
    bareNode node = bareNode again := by
  obtain ⟨id, kind⟩ := node
  obtain ⟨id', kind'⟩ := again
  obtain ⟨rfl, alike⟩ := alike
  cases kind
  case subflowCall call =>
    cases kind'
    case subflowCall call' =>
      obtain ⟨flow, version, inputs, target⟩ := call
      obtain ⟨rfl, rfl, rfl, -⟩ := alike
      rfl
    all_goals cases alike
  all_goals
    cases alike
    rfl

theorem NodesAlike.map_bareNode_eq (alike : NodesAlike nodes others) :
    nodes.map bareNode = others.map bareNode := by
  rw [nodesAlike_iff_forall₂] at alike
  induction alike with
  | nil => rfl
  | cons first _ ih => rw [List.map_cons, List.map_cons, first.bareNode_eq, ih]

end Graph

end DecisionFlow
