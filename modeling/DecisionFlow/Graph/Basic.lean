import DecisionFlow.Document.Basic
import DecisionFlow.Graph.Node

/-!
# Flow graphs

A compiled flow is a graph: nodes, labelled edges between them, and two tables made from these, the
position of each node id and the successors of each position. A node that calls a sub-flow holds the
callee's graph.

Graphs that come out of `Graph.assemble` are well formed: their tables agree with their nodes and
edges and no path returns to where it began. A graph loaded from a stored image is taken as it is.
-/

set_option autoImplicit false

namespace DecisionFlow

/-! ## Edges -/

/-- Which way an edge leaves its source. -/
inductive EdgeLabel where
  /-- The only way on from a node that does not branch. -/
  | next
  /-- The way on if a condition holds. -/
  | thenBranch
  /-- The way on if a condition does not hold. -/
  | elseBranch
  deriving DecidableEq

namespace EdgeLabel

/-- How a label is written. -/
def text : EdgeLabel → String
  | .next => "next"
  | .thenBranch => "then"
  | .elseBranch => "else"

/-- The label meant by a written one. What `default` means depends on whether the source
branches. -/
def resolve? (label : Option String) (branching : Bool) : Option EdgeLabel :=
  match label, branching with
  | some "then", true => some .thenBranch
  | some "else", true => some .elseBranch
  | some "default", true => some .elseBranch
  | none, false => some .next
  | some "next", false => some .next
  | some "default", false => some .next
  | _, _ => none

end EdgeLabel

/-- A labelled edge between two nodes. -/
structure Edge where
  source : String
  label : EdgeLabel
  target : String
  deriving DecidableEq

/-- The positions that the edges of one node lead to. -/
structure Successors where
  next : Option Nat
  thenBranch : Option Nat
  elseBranch : Option Nat
  deriving DecidableEq

namespace Successors

/-- No edges. -/
def empty : Successors := ⟨none, none, none⟩

/-- The position that the edge with a label leads to. -/
def get? (successors : Successors) : EdgeLabel → Option Nat
  | .next => successors.next
  | .thenBranch => successors.thenBranch
  | .elseBranch => successors.elseBranch

/-- Adds the edge with a label. -/
def set (successors : Successors) (label : EdgeLabel) (target : Nat) : Successors :=
  match label with
  | .next => { successors with next := some target }
  | .thenBranch => { successors with thenBranch := some target }
  | .elseBranch => { successors with elseBranch := some target }

/-- All positions that edges lead to. -/
def targets (successors : Successors) : List Nat :=
  successors.next.toList ++ successors.thenBranch.toList ++ successors.elseBranch.toList

@[simp]
theorem get?_empty (label : EdgeLabel) : empty.get? label = none := by
  cases label <;> rfl

/-- The edge that was added leads where it was told to. -/
@[simp]
theorem get?_set_self (successors : Successors) (label : EdgeLabel) (target : Nat) :
    (successors.set label target).get? label = some target := by
  cases label <;> rfl

/-- Adding an edge leaves the edges with other labels as they were. -/
theorem get?_set_of_ne {label other : EdgeLabel} (different : other ≠ label)
    (successors : Successors) (target : Nat) :
    (successors.set label target).get? other = successors.get? other := by
  cases label <;> cases other <;> simp_all [set, get?]

/-- The positions that edges lead to are those that some label leads to. -/
theorem mem_targets {successors : Successors} {position : Nat} :
    position ∈ successors.targets ↔ ∃ label, successors.get? label = some position := by
  constructor
  · intro member
    simp only [targets, List.mem_append, Option.mem_toList] at member
    rcases member with (next | thenBranch) | elseBranch
    · exact ⟨.next, next⟩
    · exact ⟨.thenBranch, thenBranch⟩
    · exact ⟨.elseBranch, elseBranch⟩
  · rintro ⟨label, found⟩
    cases label <;> simp_all [targets, get?]

end Successors

/-! ## Positions of nodes -/

/-- Writes an entry, in place if its key has one and otherwise at the end. -/
def writeEntry (key : String) (position : Nat) : List (String × Nat) → List (String × Nat)
  | [] => [(key, position)]
  | (other, old) :: rest =>
    if other = key then (key, position) :: rest
    else (other, old) :: writeEntry key position rest

/-- Writing an entry adds no key but its own. -/
theorem mem_keys_writeEntry {key name : String} {position : Nat} {entries : List (String × Nat)}
    (member : name ∈ (writeEntry key position entries).map Prod.fst) :
    name = key ∨ name ∈ entries.map Prod.fst := by
  induction entries with
  | nil => simpa [writeEntry] using member
  | cons entry rest ih =>
      obtain ⟨other, old⟩ := entry
      by_cases same : other = key
      · simp only [writeEntry, same, ↓reduceIte, List.map_cons, List.mem_cons] at member ⊢
        exact member.imp_right Or.inr
      · simp only [writeEntry, same, ↓reduceIte, List.map_cons, List.mem_cons] at member ⊢
        rcases member with here | later
        · exact .inr (.inl here)
        · exact (ih later).imp_right Or.inr

/-- Writing an entry repeats no key. -/
theorem nodup_keys_writeEntry {key : String} {position : Nat} {entries : List (String × Nat)}
    (distinct : (entries.map Prod.fst).Nodup) :
    ((writeEntry key position entries).map Prod.fst).Nodup := by
  induction entries with
  | nil => simp [writeEntry]
  | cons entry rest ih =>
      obtain ⟨other, old⟩ := entry
      rw [List.map_cons, List.nodup_cons] at distinct
      by_cases same : other = key
      · subst same
        simpa [writeEntry] using distinct
      · simp only [writeEntry, same, ↓reduceIte, List.map_cons, List.nodup_cons]
        refine ⟨fun member => ?_, ih distinct.2⟩
        rcases mem_keys_writeEntry member with equal | member
        · exact same equal
        · exact distinct.1 member

/-- A finite map from node ids to positions. The order of its entries has no meaning. -/
structure PositionIndex where
  entries : List (String × Nat)
  distinct : (entries.map Prod.fst).Nodup

namespace PositionIndex

/-- The map without entries. -/
def empty : PositionIndex := ⟨[], List.nodup_nil⟩

/-- Writes an entry; an earlier one with the same key is lost. -/
def insert (index : PositionIndex) (key : String) (position : Nat) : PositionIndex :=
  ⟨writeEntry key position index.entries, nodup_keys_writeEntry index.distinct⟩

/-- Writes entries one after the other. -/
def ofList (entries : List (String × Nat)) : PositionIndex :=
  entries.foldl (fun index entry => index.insert entry.1 entry.2) empty

/-- The position of a node id. -/
def find? (index : PositionIndex) (id : String) : Option Nat :=
  (index.entries.find? fun entry => entry.1 == id).map Prod.snd

@[simp]
theorem find?_empty (id : String) : empty.find? id = none := rfl

/-- The position just written is found. -/
@[simp]
theorem find?_insert_self (index : PositionIndex) (key : String) (position : Nat) :
    (index.insert key position).find? key = some position := by
  obtain ⟨entries, distinct⟩ := index
  simp only [find?, insert]
  induction entries with
  | nil => simp [writeEntry]
  | cons entry rest ih =>
      obtain ⟨other, old⟩ := entry
      by_cases same : other = key
      · simp [writeEntry, same]
      · simpa [writeEntry, same] using ih (List.nodup_cons.1 distinct).2

/-- Writing a position leaves the positions of other ids as they were. -/
theorem find?_insert_of_ne {key id : String} (different : id ≠ key) (index : PositionIndex)
    (position : Nat) : (index.insert key position).find? id = index.find? id := by
  obtain ⟨entries, distinct⟩ := index
  simp only [find?, insert]
  induction entries with
  | nil => simp [writeEntry, Ne.symm different]
  | cons entry rest ih =>
      obtain ⟨other, old⟩ := entry
      by_cases same : other = key
      · subst same
        simp [writeEntry, Ne.symm different]
      · have later := ih (List.nodup_cons.1 distinct).2
        by_cases here : other = id <;> simp_all [writeEntry]

/-- After entries with different keys were written, these are found, and otherwise what was there
before. -/
theorem find?_foldl_insert {entries : List (String × Nat)}
    (distinct : (entries.map Prod.fst).Nodup) (index : PositionIndex) {id : String}
    {position : Nat} :
    (entries.foldl (fun index entry => index.insert entry.1 entry.2) index).find? id =
        some position ↔
      (id, position) ∈ entries ∨ (id ∉ entries.map Prod.fst ∧ index.find? id = some position) := by
  induction entries generalizing index with
  | nil => simp
  | cons entry rest ih =>
      obtain ⟨key, written⟩ := entry
      rw [List.map_cons, List.nodup_cons] at distinct
      rw [List.foldl_cons, ih distinct.2]
      by_cases same : id = key
      · subst same
        have notLater : (id, position) ∉ rest := fun member =>
          distinct.1 (List.mem_map.2 ⟨_, member, rfl⟩)
        simp [notLater, distinct.1, eq_comm]
      · simp [same, find?_insert_of_ne same]

/-- Entries with different keys are found as they were written. -/
theorem find?_ofList {entries : List (String × Nat)} (distinct : (entries.map Prod.fst).Nodup)
    {id : String} {position : Nat} :
    (ofList entries).find? id = some position ↔ (id, position) ∈ entries := by
  simp [ofList, find?_foldl_insert distinct]

/-- Equality as maps. -/
protected def beq (index index' : PositionIndex) : Bool :=
  index.entries.length == index'.entries.length &&
    index.entries.all fun entry => index'.find? entry.1 == some entry.2

instance : BEq PositionIndex := ⟨PositionIndex.beq⟩

end PositionIndex

/-! ## Graphs -/

/-- A compiled flow. -/
structure Graph where
  id : String
  version : String
  nodes : List (Node Graph)
  edges : List Edge
  index : PositionIndex
  successors : List Successors
  start : Nat

namespace Graph

/-- The key of the flow that the graph was compiled from. -/
def key (graph : Graph) : String :=
  flowKey graph.id graph.version

/-- The node with a given id. -/
def node? (graph : Graph) (id : String) : Option (Node Graph) :=
  (graph.index.find? id).bind fun position => graph.nodes[position]?

/-- The node at which every run begins. -/
def startNode? (graph : Graph) : Option (Node Graph) :=
  graph.nodes[graph.start]?

/-- The positions that the edges of a position lead to. -/
def targets (successors : List Successors) (position : Nat) : List Nat :=
  (successors[position]?.map Successors.targets).getD []

/-! ### Equality -/

mutual

/-- Equality of graphs, where literals are compared as values and indexes as maps. -/
protected def beq : Graph → Graph → Bool
  | ⟨id, version, nodes, edges, index, successors, start⟩, graph =>
    id == graph.id && version == graph.version && nodesBeq nodes graph.nodes &&
      edges == graph.edges && index == graph.index && successors == graph.successors &&
      start == graph.start

def nodesBeq : List (Node Graph) → List (Node Graph) → Bool
  | [], [] => true
  | node :: rest, node' :: rest' => nodeBeq node node' && nodesBeq rest rest'
  | _, _ => false

def nodeBeq : Node Graph → Node Graph → Bool
  | ⟨id, kind⟩, node => id == node.id && kindBeq kind node.kind

def kindBeq : NodeKind Graph → NodeKind Graph → Bool
  | .start, .start => true
  | .input field, .input field' => field == field'
  | .conditional predicate, .conditional predicate' => predicate == predicate'
  | .arithmetic expression rounding, .arithmetic expression' rounding' =>
    expression == expression' && rounding == rounding'
  | .stringTransform transform source, .stringTransform transform' source' =>
    transform == transform' && source == source'
  | .tableLookup lookup, .tableLookup lookup' => lookup == lookup'
  | .subflowCall call, .subflowCall call' => callBeq call call'
  | .output spec, .output spec' => spec == spec'
  | _, _ => false

def callBeq : SubflowCall Graph → SubflowCall Graph → Bool
  | ⟨flow, version, inputs, target⟩, call =>
    flow == call.flow && version == call.version &&
      Expression.namedBeq inputs call.inputs && target.beq call.target

end

instance : BEq Graph := ⟨Graph.beq⟩

end Graph

end DecisionFlow
