import DecisionFlow.Image.Encode

/-!
# Decoding graphs

Every part is read back in the order in which it was written. Nothing beyond the layout is checked:
a decoded graph need not be one that could have been assembled. Bytes after the image are ignored.
Of several index entries with one key the last counts.

Expressions and called flows nest. Each level takes at least one byte, so the number of bytes bounds
how deeply they can nest.
-/

set_option autoImplicit false

namespace DecisionFlow.Image

/-- Why bytes are not an image. -/
inductive ImageError where
  | malformed
  | unsupportedFormat (found : Nat)
  /-- A file that cannot be opened, with the reason. -/
  | unreadable (path reason : String)
  /-- A file that cannot be written, with the reason. -/
  | unwritable (path reason : String)

/-- The text of an image error. -/
def ImageError.message : ImageError → String
  | .malformed => "Artifact error: Deserialization failed"
  | .unsupportedFormat found =>
    "Artifact error: Unsupported artifact format " ++ toString found ++ " (expected " ++
      toString formatNumber ++ ")"
  | .unreadable path reason => "Artifact error: Could not open file '" ++ path ++ "': " ++ reason
  | .unwritable path reason =>
    "Artifact error: Could not create file '" ++ path ++ "': " ++ reason

/-! ## Values, expressions and tables -/

/-- A value. -/
def decodeValue : Decoder Value := do
  match ← decodeShortNat with
  | 0 => return .double (← decodeDouble)
  | 1 => return .string (← decodeText)
  | 2 => return .bool (← decodeBool)
  | 3 => return .null
  | _ => failure

/-- The operator with a given number. -/
def operatorOf? (number : Nat) : Option BinaryOperator :=
  BinaryOperator.all.find? fun operator => operatorNumber operator == number

/-- What a reference reads. -/
def decodeReference : Decoder Expression := do
  match ← decodeShortNat with
  | 0 => return .field (← decodeText)
  | 1 => return .node (← decodeText)
  | _ => failure

/-- An expression that nests at most the given number of levels. -/
def decodeExpressionWithin : Nat → Decoder Expression
  | 0 => failure
  | levels + 1 => do
    let number ← decodeShortNat
    match operatorOf? number with
    | some operator =>
      let left ← decodeExpressionWithin levels
      let right ← decodeExpressionWithin levels
      return .binary operator left right
    | none =>
      match number with
      | 4 => return .not (← decodeExpressionWithin levels)
      | 13 => return .literal (← decodeValue)
      | 14 => decodeReference
      | _ => failure

/-- An expression. -/
def decodeExpression : Decoder Expression := do
  decodeExpressionWithin (← get).length

/-- Expressions with names. -/
def decodeNamed : Decoder (List (String × Expression)) :=
  decodeList (decodePair decodeText decodeExpression)

/-- A table cell. -/
def decodeCell : Decoder Cell := do
  match ← decodeShortNat with
  | 0 => return .literal (← decodeValue)
  | 1 => return .wildcard
  | _ => failure

/-- A table. -/
def decodeTable : Decoder DecisionTable := do
  let columns ← decodeList decodeText
  let rows ← decodeList (decodeList decodeCell)
  return { columns, rows }

/-! ## Nodes and edges -/

/-- A version request. -/
def decodeRequest : Decoder VersionRequest := do
  match ← decodeShortNat with
  | 0 => return .exact (← decodeText)
  | 1 => return .any
  | _ => failure

/-- A text transform. -/
def decodeTransform : Decoder StringTransform := do
  match ← decodeShortNat with
  | 0 => return .lowercase
  | 1 => return .uppercase
  | 2 => return .trim
  | _ => failure

/-- A table lookup. -/
def decodeLookup : Decoder TableLookup := do
  let keys ← decodeNamed
  let target ← decodeText
  let extraTargets ← decodeList decodeText
  let table ← decodeTable
  return { keys, target, extraTargets, table }

/-- What a terminal node emits. -/
def decodeOutput : Decoder OutputSpec := do
  let output ← decodeExpression
  let message ← decodeOption decodeExpression
  let extras ← decodeNamed
  return { output, message, extras }

/-- A call, given how the graph of the called flow is read. -/
def decodeCall {callee : Type} (decodeCallee : Decoder callee) : Decoder (SubflowCall callee) := do
  let flow ← decodeText
  let version ← decodeRequest
  let inputs ← decodeNamed
  let target ← decodeCallee
  return { flow, version, inputs, target }

/-- What a node does. -/
def decodeKind {callee : Type} (decodeCallee : Decoder callee) : Decoder (NodeKind callee) := do
  match ← decodeShortNat with
  | 0 => return .start
  | 1 => return .input (← decodeText)
  | 2 => return .conditional (← decodeExpression)
  | 3 =>
    let expression ← decodeExpression
    let rounding ← decodeOption decodeInt
    return .arithmetic expression rounding
  | 4 =>
    let transform ← decodeTransform
    let source ← decodeExpression
    return .stringTransform transform source
  | 5 => return .tableLookup (← decodeLookup)
  | 6 => return .subflowCall (← decodeCall decodeCallee)
  | 7 => return .output (← decodeOutput)
  | _ => failure

/-- A node. -/
def decodeNode {callee : Type} (decodeCallee : Decoder callee) : Decoder (Node callee) := do
  let id ← decodeText
  let kind ← decodeKind decodeCallee
  return { id, kind }

/-- An edge label. -/
def decodeLabel : Decoder EdgeLabel := do
  match ← decodeShortNat with
  | 0 => return .next
  | 1 => return .thenBranch
  | 2 => return .elseBranch
  | _ => failure

/-- An edge. -/
def decodeEdge : Decoder Edge := do
  let source ← decodeText
  let label ← decodeLabel
  let target ← decodeText
  return { source, label, target }

/-- The positions that the edges of a node lead to. -/
def decodeSuccessors : Decoder Successors := do
  let next ← decodeOption decodeNat
  let thenBranch ← decodeOption decodeNat
  let elseBranch ← decodeOption decodeNat
  return { next, thenBranch, elseBranch }

/-- An index. -/
def decodeIndex : Decoder PositionIndex := do
  return PositionIndex.ofList (← decodeList (decodePair decodeText decodeNat))

/-! ## Graphs and images -/

/-- A graph in which called flows nest at most the given number of levels. -/
def decodeGraphWithin : Nat → Decoder Graph
  | 0 => failure
  | levels + 1 => do
    let id ← decodeText
    let version ← decodeText
    let nodes ← decodeList (decodeNode (decodeGraphWithin levels))
    let edges ← decodeList decodeEdge
    let index ← decodeIndex
    let successors ← decodeList decodeSuccessors
    let start ← decodeNat
    return { id, version, nodes, edges, index, successors, start }

/-- A graph. -/
def decodeGraph : Decoder Graph := do
  decodeGraphWithin (← get).length

/-- The format number and the graph of an image. -/
def decodeImage : Decoder (Nat × Graph) :=
  decodePair decodeShortNat decodeGraph

/-- The graph at the start of a sequence of bytes. The format is looked at last. -/
def decode (bytes : Bytes) : Except ImageError Graph :=
  match decodeImage.run bytes with
  | none => .error .malformed
  | some ((format, graph), _) =>
    if format = formatNumber then .ok graph else .error (.unsupportedFormat format)

end DecisionFlow.Image
