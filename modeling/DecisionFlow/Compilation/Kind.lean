import DecisionFlow.Compilation.Parameter
import DecisionFlow.Table.Csv
import DecisionFlow.Table.Rows

/-!
# Node kinds

A kind is a name under which a reader turns a node of a document into a node of a graph, before the
flow that it may call is known. Beside the built-in kinds there are alternate names for some of
them, and a caller can add further names and readers; a name that is added again gets the new
meaning.
-/

set_option autoImplicit false

namespace DecisionFlow

/-- Reads the nodes of one kind. A call of a sub-flow is read without its callee. -/
abbrev NodeReader := NodeDocument → Except DocumentError (NodeKind Unit)

namespace NodeReader

/-- A node that starts the flow. -/
def start : NodeReader := fun _ => .ok .start

/-- A node that takes a field of the record. -/
def input : NodeReader := fun node => do
  let field ← node.requiredText "field"
  if field.isEmpty then node.invalid "field" .empty else return .input field

/-- A node that chooses a branch. -/
def conditional : NodeReader := fun node => do
  return .conditional (← node.requiredExpression "predicate")

/-- A node that computes a number. -/
def arithmetic : NodeReader := fun node => do
  return .arithmetic (← node.requiredExpression "expression") none

/-- The number of decimal places to round to, from fifteen before the point to fifteen after it. -/
def precision (node : NodeDocument) : Except DocumentError Int :=
  match node.optional? "precision" with
  | none => .ok 0
  | some (.int places) =>
    if -15 ≤ places ∧ places ≤ 15 then .ok places else node.invalid "precision" .notPrecision
  | some _ => node.invalid "precision" .notPrecision

/-- A node that computes a number and rounds it. -/
def round : NodeReader := fun node => do
  let places ← precision node
  return .arithmetic (← node.requiredExpression "expression") (some places)

/-- A node that transforms a text in a named way. -/
def stringTransform : NodeReader := fun node => do
  let name ← node.requiredText "transform"
  match StringTransform.ofName? name with
  | none => node.invalid "transform" (.unknownTransform name)
  | some transform => return .stringTransform transform (← node.requiredExpression "source")

/-- A node that transforms a text to lower case. -/
def lowercase : NodeReader := fun node => do
  return .stringTransform .lowercase (← node.requiredExpression "source")

/-- The key columns of a lookup in increasing order: an object gives an expression for each, an
array names columns that are looked up with the fields of the same names. -/
def lookupKeys (node : NodeDocument) : Except DocumentError (List (String × Expression)) := do
  match ← node.required "keys" with
  | .array items =>
    let columns ← node.textsOf "keys" items
    let sorted := columns.mergeSort fun column column' => decide (column ≤ column')
    return sorted.map fun column => (column, .field column)
  | .object members => node.expressionsOf members
  | _ => node.invalid "keys" .notKeys

/-- The table of a lookup: comma separated text, or rows with or without columns. -/
def lookupTable (node : NodeDocument) : Except DocumentError DecisionTable := do
  let read ← match ← node.optionalText "csv" with
    | some text => pure (DecisionTable.ofCsvText text)
    | none => do
      match ← node.required "rows" with
      | .array rows =>
        match node.parameter? "columns" with
        | some (.array columns) =>
          pure (DecisionTable.ofJsonRows (some (← node.textsOf "columns" columns)) rows)
        | _ => pure (DecisionTable.ofJsonRows none rows)
      | _ => node.invalid "rows" .notArray
  read.mapError (.invalidTable node.id)

/-- A node that looks up a table. -/
def tableLookup : NodeReader := fun node => do
  let keys ← lookupKeys node
  if keys.isEmpty then throw (.noKeyColumns node.id)
  let target ← node.requiredText "target"
  let extraTargets ← node.texts "extra_targets"
  let table ← lookupTable node
  (table.requireColumns (keys.map Prod.fst ++ [target] ++ extraTargets)).mapError
    (.invalidTable node.id)
  return .tableLookup { keys, target, extraTargets, table }

/-- The version that a call asks for: a text, or a number that is taken literally. -/
def callVersion (node : NodeDocument) : Except DocumentError VersionRequest :=
  match node.optional? "version" with
  | none => .ok .any
  | some (.string text) => .ok (VersionRequest.ofText (some text))
  | some (.int value) => .ok (.exact (toString value))
  | some (.float value) => .ok (.exact (Json.renderFloat value))
  | some _ => node.invalid "version" .notText

/-- A node that calls another flow. -/
def subflow : NodeReader := fun node => do
  let flow ← node.requiredText "flow"
  let version ← callVersion node
  let inputs ← node.namedExpressions "inputs"
  return .subflowCall { flow, version, inputs, target := () }

/-- A node that ends the flow. -/
def output : NodeReader := fun node => do
  let output ← node.requiredExpression "output"
  let message ← node.optionalExpression "message"
  let extras ← node.namedExpressions "extras"
  return .output { output, message, extras }

end NodeReader

/-- Readers by the names of kinds. Of several readers under one name the first counts. -/
structure KindTable where
  readers : List (String × NodeReader)

namespace KindTable

/-- The built-in kinds. -/
def builtIn : List (String × NodeReader) :=
  [("start", .start), ("input", .input), ("conditional", .conditional),
    ("arithmetic", .arithmetic), ("round", .round), ("string_transform", .stringTransform),
    ("lowercase", .lowercase), ("table_lookup", .tableLookup), ("subflow", .subflow),
    ("output", .output)]

/-- Alternate names of built-in kinds. -/
def alternates : List (String × NodeReader) :=
  [("if", .conditional), ("end", .output), ("rule", .subflow), ("table", .tableLookup),
    ("math", .arithmetic)]

/-- The kinds that documents can always use. -/
def standard : KindTable := ⟨builtIn ++ alternates⟩

/-- The reader of a kind. -/
def find? (kinds : KindTable) (name : String) : Option NodeReader :=
  kinds.readers.lookup name

/-- Adds a kind. -/
def add (kinds : KindTable) (name : String) (reader : NodeReader) : KindTable :=
  ⟨(name, reader) :: kinds.readers⟩

/-- Lets documents use a name of their own for a built-in kind. Any other kind is not known by that
name and the request is ignored with a warning. -/
def addAlias (kinds : KindTable) (given kind : String) : KindTable × List CompileWarning :=
  match builtIn.lookup kind with
  | some reader => (kinds.add given reader, [])
  | none => (kinds, [.ignoredAlias given kind])

/-- Adds several names for built-in kinds, one after the other. -/
def addAliases (kinds : KindTable) : List (String × String) → KindTable × List CompileWarning
  | [] => (kinds, [])
  | (given, kind) :: rest =>
    let (kinds, warnings) := kinds.addAlias given kind
    let (kinds, others) := kinds.addAliases rest
    (kinds, warnings ++ others)

end KindTable

end DecisionFlow
