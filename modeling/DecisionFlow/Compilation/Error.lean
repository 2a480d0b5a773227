import DecisionFlow.Document.Reader
import DecisionFlow.Expression.Json
import DecisionFlow.Graph.Assembly
import DecisionFlow.Version

/-!
# Why a document does not compile

A document is at fault itself, its nodes and edges do not form a graph, or a flow that it calls
cannot be had. Every error names what it is about; its wording is given in one place.
-/

set_option autoImplicit false

namespace DecisionFlow

/-- What is wrong with the value of a parameter. -/
inductive ParameterError where
  | notText
  | notTexts
  | notArray
  | notExpressions
  /-- Neither an object of expressions nor an array of columns. -/
  | notKeys
  | empty
  | notPrecision
  | unknownTransform (name : String)

/-- The text of a parameter error. -/
def ParameterError.message : ParameterError → String
  | .notText => "expected a string"
  | .notTexts => "expected an array of strings"
  | .notArray => "expected an array"
  | .notExpressions => "expected an object of expressions"
  | .notKeys => "expected an object or an array"
  | .empty => "must not be empty"
  | .notPrecision => "expected an integer between -15 and 15"
  | .unknownTransform name => "unknown transform '" ++ name ++ "'"

/-- What is wrong with a document. -/
inductive DocumentError where
  /-- A text that is not JSON, or not a document. -/
  | malformedText
  /-- A JSON value that is not a document. -/
  | malformed (problem : ShapeError)
  | blankFlowId
  | missingParameter (node parameter : String)
  | invalidParameter (node parameter : String) (problem : ParameterError)
  | unknownKind (node kind : String)
  | invalidExpression (node : String) (problem : ExpressionError)
  | noKeyColumns (node : String)
  | invalidTable (node : String) (problem : TableError)

/-- The text of a document error. -/
def DocumentError.message : DocumentError → String
  | .malformedText => "Failed to parse flow JSON"
  | .malformed problem => "Failed to parse flow JSON: " ++ problem.message
  | .blankFlowId => "Missing required field 'id' in flow"
  | .missingParameter node parameter =>
    "Missing required field '" ++ parameter ++ "' in node '" ++ node ++ "'"
  | .invalidParameter node parameter problem =>
    "Invalid value for '" ++ parameter ++ "' in node '" ++ node ++ "': " ++ problem.message
  | .unknownKind node kind =>
    "Node '" ++ node ++ "' has an unregistered or invalid kind: '" ++ kind ++ "'"
  | .invalidExpression node problem =>
    "Invalid expression in node '" ++ node ++ "': " ++ problem.message
  | .noKeyColumns node =>
    "Invalid decision table in node '" ++ node ++ "': at least one key column is required"
  | .invalidTable node problem =>
    "Invalid decision table in node '" ++ node ++ "': " ++ problem.message

/-- Why a called flow cannot be had. -/
inductive ReferenceError where
  | unresolved (flow : String) (request : VersionRequest)
  /-- The keys of flows that call each other, the first and the last the same. -/
  | circular (path : List String)
  /-- The resolver answered with another flow than the one asked for. -/
  | wrongAnswer (flow : String) (request : VersionRequest) (answer : String)
  /-- The resolver could not answer. -/
  | resolverFailed (flow problem : String)

/-- The text of a reference error. -/
def ReferenceError.message : ReferenceError → String
  | .unresolved flow request =>
    "Sub-flow '" ++ flow ++ "' with version '" ++ request.text ++ "' could not be resolved"
  | .circular path => "Circular sub-flow reference: " ++ String.intercalate " -> " path
  | .wrongAnswer flow request answer =>
    "Resolver failed to load sub-flow '" ++ flow ++ "': asked for version '" ++ request.text ++
      "' but got '" ++ answer ++ "'"
  | .resolverFailed flow problem =>
    "Resolver failed to load sub-flow '" ++ flow ++ "': " ++ problem

/-- Why a document does not compile. -/
inductive CompileError where
  | document (problem : DocumentError)
  | graph (problem : GraphError)
  | reference (problem : ReferenceError)
  /-- Flows call each other more deeply than the resolver announced. -/
  | nestedTooDeeply (flow : String)

/-- The text of a compile error. -/
def CompileError.message : CompileError → String
  | .document problem => problem.message
  | .graph problem => problem.message
  | .reference problem => problem.message
  | .nestedTooDeeply flow => "Sub-flow calls are nested too deeply at '" ++ flow ++ "'"

/-- What a compilation remarks on without failing. -/
inductive CompileWarning where
  | unreachableNodes (flow : String) (nodes : List String)
  | ignoredAlias (given kind : String)

/-- The text of a warning. -/
def CompileWarning.message : CompileWarning → String
  | .unreachableNodes flow nodes =>
    "Flow '" ++ flow ++ "' has nodes unreachable from start: " ++ String.intercalate ", " nodes
  | .ignoredAlias given kind =>
    "Ignoring alias '" ++ given ++ "': '" ++ kind ++ "' is not a built-in node kind"

end DecisionFlow
