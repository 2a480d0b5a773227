import DecisionFlow.Compilation.Error

/-!
# Reading the parameters of nodes

Readers for the values that node kinds take as parameters. A null counts as absent where a parameter
is optional; a required parameter may be null if its kind accepts that.
-/

set_option autoImplicit false

namespace DecisionFlow.NodeDocument

/-- The value of a parameter. -/
def parameter? (node : NodeDocument) (name : String) : Option Json :=
  Entries.find? node.parameters name

/-- The value of an optional parameter. -/
def optional? (node : NodeDocument) (name : String) : Option Json :=
  match node.parameter? name with
  | some .null => none
  | value => value

/-- The value of a parameter that the kind cannot do without. -/
def required (node : NodeDocument) (name : String) : Except DocumentError Json :=
  match node.parameter? name with
  | some value => .ok value
  | none => .error (.missingParameter node.id name)

/-- Reports the value of a parameter. -/
def invalid {α : Type} (node : NodeDocument) (name : String) (problem : ParameterError) :
    Except DocumentError α :=
  .error (.invalidParameter node.id name problem)

/-- A text that the kind cannot do without. -/
def requiredText (node : NodeDocument) (name : String) : Except DocumentError String := do
  match ← node.required name with
  | .string text => return text
  | _ => node.invalid name .notText

/-- An optional text. -/
def optionalText (node : NodeDocument) (name : String) : Except DocumentError (Option String) :=
  match node.optional? name with
  | none => .ok none
  | some (.string text) => .ok (some text)
  | some _ => node.invalid name .notText

/-- The expression that a JSON value stands for. -/
def expressionOf (node : NodeDocument) (json : Json) : Except DocumentError Expression :=
  (Expression.ofJson json).mapError (.invalidExpression node.id)

/-- An expression that the kind cannot do without. -/
def requiredExpression (node : NodeDocument) (name : String) :
    Except DocumentError Expression := do
  node.expressionOf (← node.required name)

/-- An optional expression. -/
def optionalExpression (node : NodeDocument) (name : String) :
    Except DocumentError (Option Expression) :=
  match node.optional? name with
  | none => .ok none
  | some json => (node.expressionOf json).map some

/-- Reads named expressions one after the other. -/
def expressionsOf (node : NodeDocument) :
    List (String × Json) → Except DocumentError (List (String × Expression))
  | [] => .ok []
  | (name, json) :: rest => do
    let expression ← node.expressionOf json
    let expressions ← node.expressionsOf rest
    return (name, expression) :: expressions

/-- An optional object of named expressions, in the order of their names. -/
def namedExpressions (node : NodeDocument) (name : String) :
    Except DocumentError (List (String × Expression)) :=
  match node.optional? name with
  | none => .ok []
  | some (.object members) => node.expressionsOf members
  | some _ => node.invalid name .notExpressions

/-- Reads texts one after the other. -/
def textsOf (node : NodeDocument) (name : String) :
    List Json → Except DocumentError (List String)
  | [] => .ok []
  | .string text :: rest => do
    let texts ← node.textsOf name rest
    return text :: texts
  | _ :: _ => node.invalid name .notTexts

/-- An optional array of texts. -/
def texts (node : NodeDocument) (name : String) : Except DocumentError (List String) :=
  match node.optional? name with
  | none => .ok []
  | some (.array items) => node.textsOf name items
  | some _ => node.invalid name .notTexts

end DecisionFlow.NodeDocument
