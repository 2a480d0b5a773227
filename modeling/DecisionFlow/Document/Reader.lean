import DecisionFlow.Document.Basic
import DecisionFlow.Json.Printer
import DecisionFlow.Json.Written
import DecisionFlow.Names
import DecisionFlow.Text.Quoted

/-!
# Reading documents

A document is read from a JSON value. Flows and edges may be written as objects or as arrays of
their fields in order; nodes are objects whose further members are parameters. Members of an object
are looked at in key order, so that of several faults the first in that order is reported, and only
then are missing members noticed.

A document that is read straight from text must not repeat a member of a flow, a node or an edge,
and what it says in members that have no meaning is not looked at.
-/

set_option autoImplicit false

namespace DecisionFlow

/-- Why a JSON value does not have the shape of a document. -/
inductive ShapeError where
  | missingField (name : String)
  | wrongType (found : Json) (expected : String)
  | wrongLength (found : Nat) (expected : String)
  | invalidVersion

/-- How a JSON value is described when it is of the wrong type. -/
def Json.description : Json → String
  | .null => "null"
  | .bool value => "boolean `" ++ (if value then "true" else "false") ++ "`"
  | .int value => "integer `" ++ toString value ++ "`"
  | .float value => "floating point `" ++ Json.renderFloat value ++ "`"
  | .string value => "string " ++ Text.quote value
  | .array _ => "sequence"
  | .object _ => "map"

/-- The text of a shape error. -/
def ShapeError.message : ShapeError → String
  | .missingField name => "missing field `" ++ name ++ "`"
  | .wrongType found expected =>
    "invalid type: " ++ found.description ++ ", expected " ++ expected
  | .wrongLength found expected =>
    "invalid length " ++ toString found ++ ", expected " ++ expected
  | .invalidVersion => "version must be a string or a number"

/-! ## Fields -/

/-- A text. -/
def readText : Json → Except ShapeError String
  | .string text => .ok text
  | json => .error (.wrongType json "a string")

/-- A version is written as a text or as a number, and kept as text. -/
def readVersion : Json → Except ShapeError String
  | .string text => .ok text
  | .int value => .ok (toString value)
  | .float value => .ok (Json.renderFloat value)
  | _ => .error .invalidVersion

/-- An optional label. -/
def readLabel : Json → Except ShapeError (Option String)
  | .null => .ok none
  | json => (readText json).map some

/-- Reads a field that may be absent. -/
def readOptional {α β : Type} (read : α → Except ShapeError β) :
    Option α → Except ShapeError (Option β)
  | none => .ok none
  | some value => (read value).map some

/-- A field that has to be there. -/
def requireField {α : Type} (name : String) : Option α → Except ShapeError α
  | some value => .ok value
  | none => .error (.missingField name)

/-- An item that has to be there in an array of fields. -/
def requireItem {α : Type} (position : Nat) (expected : String) : Option α → Except ShapeError α
  | some value => .ok value
  | none => .error (.wrongLength position expected)

/-- Reads the items of an array one after the other. -/
def readItems {α : Type} (read : Json → Except ShapeError α) :
    List Json → Except ShapeError (List α)
  | [] => .ok []
  | item :: rest => do
    let value ← read item
    let values ← readItems read rest
    return value :: values

/-- Reads an array. -/
def readArray {α : Type} (read : Json → Except ShapeError α) : Json → Except ShapeError (List α)
  | .array items => readItems read items
  | json => .error (.wrongType json "a sequence")

/-- No item may follow the fields of an array. -/
def refuseFurther (length : Nat) (items : List Json) : Except ShapeError Unit :=
  if items.length ≤ length then .ok ()
  else .error (.wrongLength items.length "fewer elements in array")

/-! ## Nodes and edges -/

/-- The members of a node that are not parameters. -/
def nodeFields : List String := ["id", "kind"]

/-- Reads a node. -/
def NodeDocument.ofJson : Json → Except ShapeError NodeDocument
  | .object members => do
    let id ← readOptional readText (Entries.find? members "id")
    let kind ← readOptional readText (Entries.find? members "kind")
    let id ← requireField "id" id
    let kind ← requireField "kind" kind
    return { id, kind, parameters := members.filter fun member => !nodeFields.contains member.1 }
  | json => .error (.wrongType json "struct NodeDefinition")

/-- What an edge in array form should have been. -/
def edgeItems : String := "struct EdgeDefinition with 3 elements"

/-- Reads an edge. -/
def EdgeDocument.ofJson : Json → Except ShapeError EdgeDocument
  | .object members => do
    let label ← readOptional readLabel (Entries.find? members "label")
    let source ← readOptional readText (Entries.find? members "source")
    let target ← readOptional readText (Entries.find? members "target")
    let source ← requireField "source" source
    let target ← requireField "target" target
    return { source, target, label := label.getD none }
  | .array items => do
    let source ← requireItem 0 edgeItems (← readOptional readText items[0]?)
    let target ← requireItem 1 edgeItems (← readOptional readText items[1]?)
    let label ← readOptional readLabel items[2]?
    refuseFurther 3 items
    return { source, target, label := label.getD none }
  | json => .error (.wrongType json "struct EdgeDefinition")

/-! ## Flows -/

namespace FlowDocument

/-- The result of reading the embedded flows, which is absent where there are none to read. -/
abbrev Embedded := Option (Except ShapeError (List FlowDocument))

/-- The embedded flows, if reading them succeeded. -/
def Embedded.get : Embedded → Except ShapeError (List FlowDocument)
  | some read => read
  | none => .ok []

/-- Reads a flow in object form. -/
def ofMembers (members : List (String × Json)) (embedded : Embedded) :
    Except ShapeError FlowDocument := do
  let edges ← readOptional (readArray EdgeDocument.ofJson) (Entries.find? members "edges")
  let id ← readOptional readText (Entries.find? members "id")
  let nodes ← readOptional (readArray NodeDocument.ofJson) (Entries.find? members "nodes")
  let subflows ← embedded.get
  let version ← readOptional readVersion (Entries.find? members "version")
  let id ← requireField "id" id
  let version ← requireField "version" version
  let nodes ← requireField "nodes" nodes
  return { id, version, nodes, edges := edges.getD [], subflows }

/-- What a flow in array form should have been. -/
def flowItems : String := "struct FlowDefinition with 5 elements"

/-- Reads a flow in array form. -/
def ofItems (items : List Json) (embedded : Embedded) : Except ShapeError FlowDocument := do
  let id ← requireItem 0 flowItems (← readOptional readText items[0]?)
  let version ← requireItem 1 flowItems (← readOptional readVersion items[1]?)
  let nodes ←
    requireItem 2 flowItems (← readOptional (readArray NodeDocument.ofJson) items[2]?)
  let edges ← readOptional (readArray EdgeDocument.ofJson) items[3]?
  let subflows ← embedded.get
  refuseFurther 5 items
  return { id, version, nodes, edges := edges.getD [], subflows }

mutual

/-- The document that a JSON value stands for. -/
def ofJson : Json → Except ShapeError FlowDocument
  | .object members => ofMembers members (embeddedIn members)
  | .array items => ofItems items (embeddedAt 4 items)
  | .null => .error (.wrongType .null "struct FlowDefinition")
  | .bool value => .error (.wrongType (.bool value) "struct FlowDefinition")
  | .int value => .error (.wrongType (.int value) "struct FlowDefinition")
  | .float value => .error (.wrongType (.float value) "struct FlowDefinition")
  | .string value => .error (.wrongType (.string value) "struct FlowDefinition")

/-- Reads the embedded flows of an object. -/
def embeddedIn : List (String × Json) → Embedded
  | [] => none
  | (key, value) :: rest => if key == "subflows" then some (ofArray value) else embeddedIn rest

/-- Reads the embedded flows at a position of an array. -/
def embeddedAt : Nat → List Json → Embedded
  | _, [] => none
  | 0, item :: _ => some (ofArray item)
  | position + 1, _ :: rest => embeddedAt position rest

/-- Reads an array of documents. -/
def ofArray : Json → Except ShapeError (List FlowDocument)
  | .array items => ofAll items
  | .null => .error (.wrongType .null "a sequence")
  | .bool value => .error (.wrongType (.bool value) "a sequence")
  | .int value => .error (.wrongType (.int value) "a sequence")
  | .float value => .error (.wrongType (.float value) "a sequence")
  | .string value => .error (.wrongType (.string value) "a sequence")
  | .object members => .error (.wrongType (.object members) "a sequence")

/-- Reads documents one after the other. -/
def ofAll : List Json → Except ShapeError (List FlowDocument)
  | [] => .ok []
  | item :: rest => do
    let document ← ofJson item
    let documents ← ofAll rest
    return document :: documents

end

end FlowDocument

end DecisionFlow
