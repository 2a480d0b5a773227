import DecisionFlow.Graph.Basic
import DecisionFlow.Image.Layout

/-!
# Encoding graphs

A graph is encoded part by part, in the order of its fields. Where there are alternatives, the
number of the alternative comes first. An image is a format number and a graph; the graph of a called
flow stands inside the node that calls it.
-/

set_option autoImplicit false

namespace DecisionFlow.Image

/-- The number of the image format. -/
def formatNumber : Nat := 1

/-! ## Values, expressions and tables -/

/-- A value. -/
def encodeValue : Value → Bytes
  | .double value => encodeNat 0 ++ encodeDouble value
  | .string value => encodeNat 1 ++ encodeText value
  | .bool value => encodeNat 2 ++ encodeBool value
  | .null => encodeNat 3

/-- The number of an operator among the forms of expressions. Between the arithmetic operators and
the connectives stands the negation. -/
def operatorNumber : BinaryOperator → Nat
  | .add => 0
  | .subtract => 1
  | .multiply => 2
  | .divide => 3
  | .and => 5
  | .or => 6
  | .equal => 7
  | .notEqual => 8
  | .greater => 9
  | .greaterOrEqual => 10
  | .less => 11
  | .lessOrEqual => 12

/-- An expression. A reference tells after its number whether it reads a field or a node. -/
def encodeExpression : Expression → Bytes
  | .binary operator left right =>
    encodeNat (operatorNumber operator) ++ (encodeExpression left ++ encodeExpression right)
  | .not operand => encodeNat 4 ++ encodeExpression operand
  | .literal value => encodeNat 13 ++ encodeValue value
  | .field name => encodeNat 14 ++ (encodeNat 0 ++ encodeText name)
  | .node reference => encodeNat 14 ++ (encodeNat 1 ++ encodeText reference)

/-- Expressions with names. -/
def encodeNamed : List (String × Expression) → Bytes :=
  encodeList (encodePair encodeText encodeExpression)

/-- A table cell. -/
def encodeCell : Cell → Bytes
  | .literal value => encodeNat 0 ++ encodeValue value
  | .wildcard => encodeNat 1

/-- A table. -/
def encodeTable (table : DecisionTable) : Bytes :=
  encodeList encodeText table.columns ++ encodeList (encodeList encodeCell) table.rows

/-! ## Nodes and edges -/

/-- A version request. -/
def encodeRequest : VersionRequest → Bytes
  | .exact version => encodeNat 0 ++ encodeText version
  | .any => encodeNat 1

/-- A text transform. -/
def encodeTransform : StringTransform → Bytes
  | .lowercase => encodeNat 0
  | .uppercase => encodeNat 1
  | .trim => encodeNat 2

/-- A table lookup. -/
def encodeLookup (lookup : TableLookup) : Bytes :=
  encodeNamed lookup.keys ++ (encodeText lookup.target ++
    (encodeList encodeText lookup.extraTargets ++ encodeTable lookup.table))

/-- What a terminal node emits. -/
def encodeOutput (spec : OutputSpec) : Bytes :=
  encodeExpression spec.output ++
    (encodeOption encodeExpression spec.message ++ encodeNamed spec.extras)

/-- An edge label. -/
def encodeLabel : EdgeLabel → Bytes
  | .next => encodeNat 0
  | .thenBranch => encodeNat 1
  | .elseBranch => encodeNat 2

/-- An edge. -/
def encodeEdge (edge : Edge) : Bytes :=
  encodeText edge.source ++ (encodeLabel edge.label ++ encodeText edge.target)

/-- The positions that the edges of a node lead to. -/
def encodeSuccessors (successors : Successors) : Bytes :=
  encodeOption encodeNat successors.next ++
    (encodeOption encodeNat successors.thenBranch ++
      encodeOption encodeNat successors.elseBranch)

/-- An index: its entries in the order in which they are held. -/
def encodeIndex (index : PositionIndex) : Bytes :=
  encodeList (encodePair encodeText encodeNat) index.entries

/-- The parts of a graph after its index. -/
def encodeWays (successors : List Successors) (start : Nat) : Bytes :=
  encodeList encodeSuccessors successors ++ encodeNat start

/-! ## Graphs -/

mutual

/-- A graph. -/
def encodeGraph : Graph → Bytes
  | ⟨id, version, nodes, edges, index, successors, start⟩ =>
    encodeText id ++ (encodeText version ++
      ((encodeNat nodes.length ++ encodeNodes nodes) ++
        (encodeList encodeEdge edges ++ (encodeIndex index ++ encodeWays successors start))))

/-- Nodes, one after the other. -/
def encodeNodes : List (Node Graph) → Bytes
  | [] => []
  | node :: rest => encodeNode node ++ encodeNodes rest

/-- A node. -/
def encodeNode : Node Graph → Bytes
  | ⟨id, kind⟩ => encodeText id ++ encodeKind kind

/-- What a node does. -/
def encodeKind : NodeKind Graph → Bytes
  | .start => encodeNat 0
  | .input field => encodeNat 1 ++ encodeText field
  | .conditional predicate => encodeNat 2 ++ encodeExpression predicate
  | .arithmetic expression rounding =>
    encodeNat 3 ++ (encodeExpression expression ++ encodeOption encodeInt rounding)
  | .stringTransform transform source =>
    encodeNat 4 ++ (encodeTransform transform ++ encodeExpression source)
  | .tableLookup lookup => encodeNat 5 ++ encodeLookup lookup
  | .subflowCall call => encodeNat 6 ++ encodeCall call
  | .output spec => encodeNat 7 ++ encodeOutput spec

/-- A call, with the graph of the called flow. -/
def encodeCall : SubflowCall Graph → Bytes
  | ⟨flow, version, inputs, target⟩ =>
    encodeText flow ++ (encodeRequest version ++ (encodeNamed inputs ++ encodeGraph target))

end

/-! ## Images -/

/-- The image of a graph up to its index. -/
def head (graph : Graph) : Bytes :=
  encodeNat formatNumber ++ (encodeText graph.id ++ (encodeText graph.version ++
    ((encodeNat graph.nodes.length ++ encodeNodes graph.nodes) ++
      encodeList encodeEdge graph.edges)))

/-- The image of a graph after its index. -/
def tail (graph : Graph) : Bytes :=
  encodeWays graph.successors graph.start

/-- The image of a graph. -/
def encode (graph : Graph) : Bytes :=
  encodeNat formatNumber ++ encodeGraph graph

end DecisionFlow.Image
