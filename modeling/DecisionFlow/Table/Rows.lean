import DecisionFlow.Table.Basic

/-!
# Tables from JSON rows

With columns given, rows are arrays in the order of the columns. Without them the first row is an
object whose keys, in key order, become the columns. Rows may mix both layouts as long as they fit
the columns.
-/

set_option autoImplicit false

namespace DecisionFlow

/-- The cell that a JSON scalar stands for; the wildcard text is a wildcard. -/
def Cell.ofJson? : Json → Option Cell
  | .string text => some (if text = wildcardText then .wildcard else .literal (.string text))
  | json => (Value.ofJson? json).map .literal

namespace DecisionTable

/-- The cells of an array row, column by column. -/
def cellsOfArray (row : Nat) : List String → List Json → Except TableError (List Cell)
  | column :: columns, value :: values =>
    match Cell.ofJson? value with
    | none => .error (.invalidCell row column)
    | some cell => do
      let cells ← cellsOfArray row columns values
      return cell :: cells
  | _, _ => .ok []

/-- The cells of an object row, column by column. -/
def cellsOfObject (row : Nat) (members : List (String × Json)) :
    List String → Except TableError (List Cell)
  | [] => .ok []
  | column :: columns =>
    match (Entries.find? members column).bind Cell.ofJson? with
    | none => .error (.invalidCell row column)
    | some cell => do
      let cells ← cellsOfObject row members columns
      return cell :: cells

/-- The cells of one row. -/
def cellsOfRow (columns : List String) (row : Nat) : Json → Except TableError (List Cell)
  | .array values =>
    if values.length = columns.length then cellsOfArray row columns values
    else .error (.raggedRow row columns.length values.length)
  | .object members =>
    if members.length = columns.length then cellsOfObject row members columns
    else .error (.raggedRow row columns.length members.length)
  | _ => .error (.invalidRow row)

/-- The cells of all rows, counted from `row`. -/
def cellsOfRows (columns : List String) (row : Nat) :
    List Json → Except TableError (List (List Cell))
  | [] => .ok []
  | json :: rest => do
    let cells ← cellsOfRow columns row json
    let others ← cellsOfRows columns (row + 1) rest
    return cells :: others

/-- The columns named by the first row. -/
def columnsOfFirst : List Json → Except TableError (List String)
  | [] => .error .noColumns
  | .object members :: _ => .ok (members.map Prod.fst)
  | _ :: _ => .error (.invalidRow 0)

/-- The table with the given rows, and with the given columns or those of the first row. -/
def ofJsonRows (columns : Option (List String)) (rows : List Json) :
    Except TableError DecisionTable := do
  let columns ← match columns with
    | some columns => .ok columns
    | none => columnsOfFirst rows
  make columns (← cellsOfRows columns 0 rows)

end DecisionTable

end DecisionFlow
