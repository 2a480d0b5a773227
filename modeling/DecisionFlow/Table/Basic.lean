import DecisionFlow.Names
import DecisionFlow.Value

/-!
# Decision tables

A decision table has named columns and rows of cells. A cell is a literal or a wildcard, which
matches every value. A lookup gives values for some of the columns and finds the first row, from the
top, whose cells match them all; a last row of wildcards acts as a default.

Tables are built by `DecisionTable.make`, which checks the columns and the length of the rows. A
table from a stored image is not checked again, so a lookup can meet a row that is too short.
-/

set_option autoImplicit false

namespace DecisionFlow

/-- A table cell. -/
inductive Cell where
  | literal (value : Value)
  | wildcard
  deriving Inhabited

/-- How a wildcard is written. -/
def wildcardText : String := "*"

namespace Cell

/-- Equality of cells, where literals are compared as values. -/
protected def beq : Cell → Cell → Bool
  | .literal value, .literal value' => value == value'
  | .wildcard, .wildcard => true
  | _, _ => false

instance : BEq Cell := ⟨Cell.beq⟩

/-- A wildcard matches every value, a literal only an equal one. -/
def accepts (cell : Cell) (wanted : Value) : Bool :=
  match cell with
  | .wildcard => true
  | .literal value => value == wanted

/-- The value that a cell carries; a wildcard carries none. -/
def value : Cell → Value
  | .literal value => value
  | .wildcard => .null

/-- The JSON form of a cell. -/
def toJson : Cell → Json
  | .literal value => value.toJson
  | .wildcard => .string wildcardText

end Cell

/-- What is wrong with the data of a table. -/
inductive TableError where
  /-- Text that is not a table of characters. -/
  | unreadable
  | noColumns
  | repeatedColumn (column : String)
  | raggedRow (row expected found : Nat)
  /-- A row that is neither an array nor an object. -/
  | invalidRow (row : Nat)
  /-- A cell that is missing, or is not a scalar. -/
  | invalidCell (row : Nat) (column : String)
  | unknownColumn (column : String)

/-- The text of a table error. -/
def TableError.message : TableError → String
  | .unreadable => "Failed to read CSV table"
  | .noColumns => "Table has no columns"
  | .repeatedColumn column => "Column '" ++ column ++ "' is declared more than once"
  | .raggedRow row expected found =>
    "Row " ++ toString row ++ " has " ++ toString found ++ " cells, expected " ++ toString expected
  | .invalidRow row => "Row " ++ toString row ++ " is neither an object nor an array"
  | .invalidCell row column =>
    "Row " ++ toString row ++ " has a non-scalar value in column '" ++ column ++ "'"
  | .unknownColumn column => "Column '" ++ column ++ "' does not exist in the table"

/-- Why a lookup fails. -/
inductive LookupError where
  /-- No row matches the wanted values. -/
  | noMatch (wanted : List (String × Value))
  | missingColumn (column : String)
  /-- A row has no cell in one of the columns. -/
  | shortRow (row : Nat)

/-- The text of a lookup error. -/
def LookupError.message : LookupError → String
  | .noMatch wanted =>
    "No table row matches " ++
      String.intercalate ", " (wanted.map fun key => key.1 ++ "=" ++ key.2.display) ++
      " and the table has no default row"
  | .missingColumn column => "Lookup key column '" ++ column ++ "' does not exist in the table"
  | .shortRow row => "Row " ++ toString row ++ " has fewer cells than the table has columns"

/-- Named columns and rows of cells. -/
structure DecisionTable where
  columns : List String
  rows : List (List Cell)

namespace DecisionTable

/-- Equality of tables, where literals are compared as values. -/
protected def beq (table table' : DecisionTable) : Bool :=
  table.columns == table'.columns && table.rows == table'.rows

instance : BEq DecisionTable := ⟨DecisionTable.beq⟩

/-- The first row, counted from `index`, that has not as many cells as there are columns. -/
def checkRows (expected index : Nat) : List (List Cell) → Except TableError Unit
  | [] => .ok ()
  | row :: rest =>
    if row.length = expected then checkRows expected (index + 1) rest
    else .error (.raggedRow index expected row.length)

/-- A table with at least one column, no repeated column, and a cell for each column in each
row. -/
def make (columns : List String) (rows : List (List Cell)) : Except TableError DecisionTable :=
  if columns.isEmpty then .error .noColumns
  else
    match firstRepeated columns with
    | some column => .error (.repeatedColumn column)
    | none => do
      checkRows columns.length 0 rows
      return { columns, rows }

/-! ## Columns -/

/-- The position of a column. -/
def columnIndex? (table : DecisionTable) (column : String) : Option Nat :=
  table.columns.findIdx? (· == column)

/-- Checks that the table has all the given columns. -/
def requireColumns (table : DecisionTable) : List String → Except TableError Unit
  | [] => .ok ()
  | column :: rest =>
    if (table.columnIndex? column).isSome then table.requireColumns rest
    else .error (.unknownColumn column)

/-! ## Lookup -/

/-- The positions of the wanted columns, with the wanted values. -/
def resolveKeys (table : DecisionTable) :
    List (String × Value) → Except LookupError (List (Nat × Value))
  | [] => .ok []
  | (column, value) :: rest =>
    match table.columnIndex? column with
    | none => .error (.missingColumn column)
    | some index => do
      let keys ← table.resolveKeys rest
      return (index, value) :: keys

/-- A row matches when each key column's cell accepts the wanted value. The answer is absent if the
row ends before a cell that has to be looked at. -/
def rowMatches (row : List Cell) : List (Nat × Value) → Option Bool
  | [] => some true
  | (index, wanted) :: rest =>
    match row[index]? with
    | none => none
    | some cell => if cell.accepts wanted then rowMatches row rest else some false

/-- The first matching row, counted from `index`. -/
def findRow (keys : List (Nat × Value)) (index : Nat) :
    List (List Cell) → Except LookupError (Option Nat)
  | [] => .ok none
  | row :: rest =>
    match rowMatches row keys with
    | none => .error (.shortRow index)
    | some true => .ok (some index)
    | some false => findRow keys (index + 1) rest

/-- The first row whose cells match all wanted values. Only the wanted columns take part. -/
def lookup (table : DecisionTable) (wanted : List (String × Value)) : Except LookupError Nat := do
  let keys ← table.resolveKeys wanted
  match ← findRow keys 0 table.rows with
  | some row => return row
  | none => .error (.noMatch wanted)

/-- The value of a column in a row, if the table has both. -/
def value? (table : DecisionTable) (row : Nat) (column : String) : Option Value := do
  let index ← table.columnIndex? column
  let cells ← table.rows[row]?
  let cell ← cells[index]?
  return cell.value

/-! ## JSON -/

/-- The JSON form of the columns. -/
def columnsToJson (table : DecisionTable) : Json :=
  .array (table.columns.map .string)

/-- The JSON form of the rows: arrays in the order of the columns. -/
def rowsToJson (table : DecisionTable) : Json :=
  .array (table.rows.map fun row => .array (row.map Cell.toJson))

end DecisionTable

end DecisionFlow
