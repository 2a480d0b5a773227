import DecisionFlow.Compilation.Kind
import DecisionFlow.Compilation.Resolver
import DecisionFlow.Graph.Reach

/-!
# Compiling documents

A document is compiled node by node. When a node calls a flow, the called flow is found and compiled
on the spot: first among the flows embedded in the documents met so far, then through the resolver.
The stack of flows being compiled shows when a flow calls itself through others; a flow that was
compiled before is taken from the cache.

Each flow on the stack has a different key, so calls cannot nest more deeply than there are flows in
the document and behind the resolver. That number is the allowance with which compilation starts.
-/

set_option autoImplicit false

namespace DecisionFlow

/-- What compilation has gathered so far. -/
structure Progress where
  /-- The flows embedded in documents met so far, and the main flow. -/
  embedded : Library
  /-- Compiled flows by their keys, the latest first. -/
  cache : List (String × Graph)
  warnings : List CompileWarning

/-- A step of compilation: it may fail, and what was gathered before is kept even then. -/
abbrev Compilation := EStateM CompileError Progress

/-- What compilation needs besides a document. -/
structure Compiler where
  kinds : KindTable
  resolver : Resolver

/-- Replaces the callee of a node by what a step finds for its call. -/
def NodeKind.resolveCall {callee other : Type}
    (find : SubflowCall callee → Compilation other) : NodeKind callee → Compilation (NodeKind other)
  | .start => return .start
  | .input field => return .input field
  | .conditional predicate => return .conditional predicate
  | .arithmetic expression rounding => return .arithmetic expression rounding
  | .stringTransform transform source => return .stringTransform transform source
  | .tableLookup lookup => return .tableLookup lookup
  | .subflowCall call => do
    let target ← find call
    return .subflowCall { call with target }
  | .output spec => return .output spec

namespace Compiler

/-! ## Finding called flows -/

/-- The document that answers a call: an embedded one if there is one, else the resolver's. The
answer has to be the flow and version that was asked for. -/
def findDocument (compiler : Compiler) (embedded : Library) (flow : String)
    (request : VersionRequest) : Except ReferenceError FlowDocument := do
  let document ← match embedded.find? flow request with
    | some document => .ok document
    | none =>
      match ← compiler.resolver.answer flow request with
      | some document => .ok document
      | none => .error (.unresolved flow request)
  if document.id = flow ∧ request.accepts document.version = true then return document
  else .error (.wrongAnswer flow request document.key)

/-- The part of a stack from a key on, closed by the key itself. -/
def closedCall (stack : List String) (key : String) : List String :=
  stack.dropWhile (· ≠ key) ++ [key]

/-- The graph of a called flow, given how documents are compiled. -/
def callee (compiler : Compiler)
    (compile : List String → FlowDocument → Compilation Graph)
    (stack : List String) (flow : String) (request : VersionRequest) : Compilation Graph := do
  let document ← match compiler.findDocument (← get).embedded flow request with
    | .ok document => pure document
    | .error problem => throw (.reference problem)
  if document.key ∈ stack then
    throw (.reference (.circular (closedCall stack document.key)))
  match (← get).cache.lookup document.key with
  | some graph => return graph
  | none =>
    let graph ← compile stack document
    modify fun progress => { progress with cache := (document.key, graph) :: progress.cache }
    return graph

/-! ## Compiling a document -/

/-- Compiles a node, given how the graphs of called flows are found. -/
def compileNode (compiler : Compiler)
    (find : String → VersionRequest → Compilation Graph) (node : NodeDocument) :
    Compilation (Node Graph) := do
  match compiler.kinds.find? node.kind with
  | none => throw (.document (.unknownKind node.id node.kind))
  | some reader =>
    match reader node with
    | .error problem => throw (.document problem)
    | .ok kind =>
      let kind ← kind.resolveCall fun call => find call.flow call.version
      return { id := node.id, kind }

/-- Compiles nodes one after the other. -/
def compileNodes (compiler : Compiler)
    (find : String → VersionRequest → Compilation Graph) :
    List NodeDocument → Compilation (List (Node Graph))
  | [] => return []
  | node :: rest => do
    let compiled ← compiler.compileNode find node
    let others ← compiler.compileNodes find rest
    return compiled :: others

/-- Assembles the graph of a document from its compiled nodes. -/
def assemble (document : FlowDocument) (nodes : List (Node Graph)) : Compilation Graph := do
  match Graph.assemble document.id document.version nodes document.edges with
  | .error problem => throw (.graph problem)
  | .ok graph =>
    let unreachable := graph.unreachableNodes
    if !unreachable.isEmpty then
      modify fun progress => { progress with
        warnings := progress.warnings ++ [.unreachableNodes graph.id unreachable] }
    return graph

/-- Compiles a document below the flows on the stack, outermost first, while no more than
`allowance` further documents are nested. -/
def compileWithin (compiler : Compiler) :
    Nat → List String → FlowDocument → Compilation Graph
  | 0, _, document => throw (.nestedTooDeeply document.key)
  | allowance + 1, stack, document => do
    if Text.isBlankText document.id then throw (.document .blankFlowId)
    modify fun progress => { progress with
      embedded := document.subflows.foldl Library.registerWithEmbedded progress.embedded }
    let find := compiler.callee (compiler.compileWithin allowance) (stack ++ [document.key])
    assemble document (← compiler.compileNodes find document.nodes)

/-- What compilation starts from: the main flow can be called like an embedded one, so that a flow
that calls back into it is noticed. -/
def initialProgress (document : FlowDocument) : Progress where
  embedded := Library.empty.register document.bare
  cache := []
  warnings := []

/-- How deeply calls can nest. -/
def nesting (compiler : Compiler) (document : FlowDocument) : Nat :=
  document.flowCount + compiler.resolver.flowCount + 1

/-- The graph of a document, and what there is to remark. -/
def compile (compiler : Compiler) (document : FlowDocument) :
    Except CompileError Graph × List CompileWarning :=
  match (compiler.compileWithin (compiler.nesting document) [] document).run
      (initialProgress document) with
  | .ok graph progress => (.ok graph, progress.warnings)
  | .error problem progress => (.error problem, progress.warnings)

/-- The compiler with the standard kinds and no resolver. -/
def plain : Compiler where
  kinds := KindTable.standard
  resolver := Resolver.none

end Compiler

end DecisionFlow
