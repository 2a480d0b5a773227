import DecisionFlow.Expression.Basic
import DecisionFlow.Table.Basic
import DecisionFlow.Version

/-!
# Nodes

A node has an id and one of a closed list of kinds. A node that calls a sub-flow refers to its
callee; what a callee is differs between the stages of a flow's life, so the kinds are
parametrised by it: nothing yet when a node has just been read, a compiled graph in a graph, and a
function from records to results while the graph is run.
-/

set_option autoImplicit false

namespace DecisionFlow

/-- A change made to a text. -/
inductive StringTransform where
  | lowercase
  | uppercase
  | trim
  deriving DecidableEq

namespace StringTransform

/-- How a transform is named in documents. -/
def name : StringTransform → String
  | .lowercase => "lowercase"
  | .uppercase => "uppercase"
  | .trim => "trim"

/-- The transform with a given name. -/
def ofName? (name : String) : Option StringTransform :=
  [lowercase, uppercase, trim].find? (·.name == name)

/-- The text of a value, transformed. -/
def apply (transform : StringTransform) (source : Value) : String :=
  match transform with
  | .lowercase => Text.lower source.text
  | .uppercase => Text.upper source.text
  | .trim => Text.trim source.text

end StringTransform

/-- A lookup in a decision table. -/
structure TableLookup where
  /-- Key columns, with the expressions that give the wanted values. -/
  keys : List (String × Expression)
  /-- The column whose cell becomes the node's value. -/
  target : String
  /-- Further columns, which can be read as `node.column`. -/
  extraTargets : List String
  table : DecisionTable

/-- A call of another flow. -/
structure SubflowCall (callee : Type) where
  flow : String
  version : VersionRequest
  /-- Fields of the callee's record, with the expressions that give their values. -/
  inputs : List (String × Expression)
  target : callee

/-- What a terminal node emits. -/
structure OutputSpec where
  output : Expression
  message : Option Expression
  extras : List (String × Expression)

/-- What a node does. -/
inductive NodeKind (callee : Type) where
  | start
  /-- Takes its value from a field of the record. -/
  | input (field : String)
  /-- Chooses the branch to follow. -/
  | conditional (predicate : Expression)
  /-- Computes a number, which may be rounded to a number of decimal places. -/
  | arithmetic (expression : Expression) (rounding : Option Int)
  | stringTransform (transform : StringTransform) (source : Expression)
  | tableLookup (lookup : TableLookup)
  | subflowCall (call : SubflowCall callee)
  /-- Ends the flow. -/
  | output (spec : OutputSpec)

/-- A node of a flow. -/
structure Node (callee : Type) where
  id : String
  kind : NodeKind callee

namespace NodeKind

variable {callee other : Type}

/-- The name of the built-in kind that a node is read from. -/
def name : NodeKind callee → String
  | .start => "start"
  | .input _ => "input"
  | .conditional _ => "conditional"
  | .arithmetic _ none => "arithmetic"
  | .arithmetic _ (some _) => "round"
  | .stringTransform _ _ => "string_transform"
  | .tableLookup _ => "table_lookup"
  | .subflowCall _ => "subflow"
  | .output _ => "output"

/-- The node starts the flow. -/
def isStart : NodeKind callee → Bool
  | .start => true
  | _ => false

/-- The node ends the flow. -/
def isTerminal : NodeKind callee → Bool
  | .output _ => true
  | _ => false

/-- The node chooses between two branches. -/
def isBranching : NodeKind callee → Bool
  | .conditional _ => true
  | _ => false

/-- Every expression that the node evaluates. -/
def expressions : NodeKind callee → List Expression
  | .start | .input _ => []
  | .conditional predicate => [predicate]
  | .arithmetic expression _ => [expression]
  | .stringTransform _ source => [source]
  | .tableLookup lookup => lookup.keys.map Prod.snd
  | .subflowCall call => call.inputs.map Prod.snd
  | .output spec => [spec.output] ++ spec.message.toList ++ spec.extras.map Prod.snd

/-- The callee, if the node calls a sub-flow. -/
def callee? : NodeKind callee → Option callee
  | .subflowCall call => some call.target
  | _ => none

/-- The same node with another callee. -/
def map (change : callee → other) : NodeKind callee → NodeKind other
  | .start => .start
  | .input field => .input field
  | .conditional predicate => .conditional predicate
  | .arithmetic expression rounding => .arithmetic expression rounding
  | .stringTransform transform source => .stringTransform transform source
  | .tableLookup lookup => .tableLookup lookup
  | .subflowCall call => .subflowCall { call with target := change call.target }
  | .output spec => .output spec

end NodeKind

/-- The same node with another callee. -/
def Node.map {callee other : Type} (change : callee → other) (node : Node callee) : Node other :=
  { id := node.id, kind := node.kind.map change }

/-! ## Equality of parameters -/

/-- Equality of lookups, where literals are compared as values. -/
protected def TableLookup.beq (lookup lookup' : TableLookup) : Bool :=
  Expression.namedBeq lookup.keys lookup'.keys && lookup.target == lookup'.target &&
    lookup.extraTargets == lookup'.extraTargets && lookup.table == lookup'.table

instance : BEq TableLookup := ⟨TableLookup.beq⟩

/-- Equality of outputs, where literals are compared as values. -/
protected def OutputSpec.beq (spec spec' : OutputSpec) : Bool :=
  spec.output == spec'.output && spec.message == spec'.message &&
    Expression.namedBeq spec.extras spec'.extras

instance : BEq OutputSpec := ⟨OutputSpec.beq⟩

end DecisionFlow
