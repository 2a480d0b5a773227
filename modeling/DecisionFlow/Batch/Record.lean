import DecisionFlow.Value

/-!
# Records

A record gives values to named fields. A batch of records is written as an array of objects, one for
each record, or as an object of columns, one for each field; columns are all of one length and their
items at one place form a record.
-/

set_option autoImplicit false

namespace DecisionFlow

/-- Why JSON does not stand for records. -/
inductive RecordError where
  /-- A file that cannot be read, with the reason. -/
  | unreadable (path reason : String)
  /-- A text that is not JSON. -/
  | malformedText
  /-- Neither an array of rows nor an object of columns. -/
  | invalidShape
  | notAnObject (row : Nat)
  | notScalar (field : String)
  | columnLength (column : String) (expected found : Nat)

/-- The text of a record error. -/
def RecordError.message : RecordError → String
  | .unreadable path reason => "Failed to read records: " ++ path ++ ": " ++ reason
  | .malformedText => "Failed to parse records JSON"
  | .invalidShape => "Expected an array of objects or an object of columns"
  | .notAnObject row => "Row " ++ toString row ++ " is not an object"
  | .notScalar field =>
    "Field '" ++ field ++ "' holds an array or object, which has no scalar value"
  | .columnLength column expected found =>
    "Column '" ++ column ++ "' has " ++ toString found ++ " values, expected " ++ toString expected

/-- Values of named fields. -/
structure Record where
  fields : Entries Value

namespace Record

/-- The record without fields. -/
def empty : Record := ⟨[]⟩

/-- Gives a value to a field. -/
def insert (record : Record) (name : String) (value : Value) : Record :=
  ⟨Entries.insert name value record.fields⟩

/-- The record with the listed fields, of which the last one with a name stays. -/
def ofList (fields : List (String × Value)) : Record :=
  ⟨Entries.ofList fields⟩

/-- The value of a field. -/
def find? (record : Record) (name : String) : Option Value :=
  record.fields.find? name

/-- The value of a field, which is null if the record does not have it. -/
def get (record : Record) (name : String) : Value :=
  (record.find? name).getD .null

/-- The number of fields. -/
def size (record : Record) : Nat :=
  record.fields.length

/-- Reads the fields of an object one after the other. -/
def fieldsOfMembers : List (String × Json) → Except RecordError (List (String × Value))
  | [] => .ok []
  | (name, json) :: rest =>
    match Value.ofJson? json with
    | none => .error (.notScalar name)
    | some value => do
      let fields ← fieldsOfMembers rest
      return (name, value) :: fields

/-- The record that the members of an object stand for. -/
def ofMembers (members : List (String × Json)) : Except RecordError Record := do
  return ofList (← fieldsOfMembers members)

/-- The record that a JSON object stands for. -/
def ofJson : Json → Except RecordError Record
  | .object members => ofMembers members
  | _ => .error (.notAnObject 0)

/-- The JSON form of a record. -/
def toJson (record : Record) : Json :=
  .object (record.fields.map fun field => (field.1, field.2.toJson))

end Record

/-- Records in order. -/
structure RecordBatch where
  records : List Record

namespace RecordBatch

/-- Reads rows one after the other, counted from `row`. -/
def recordsOfRows (row : Nat) : List Json → Except RecordError (List Record)
  | [] => .ok []
  | .object members :: rest => do
    let record ← Record.ofMembers members
    let records ← recordsOfRows (row + 1) rest
    return record :: records
  | _ :: _ => .error (.notAnObject row)

/-- The batch written as an array of objects. -/
def ofRows (rows : List Json) : Except RecordError RecordBatch := do
  return ⟨← recordsOfRows 0 rows⟩

/-- The columns of an object, each with its items. -/
def columnItems : List (String × Json) → Except RecordError (List (String × List Json))
  | [] => .ok []
  | (name, .array items) :: rest => do
    let columns ← columnItems rest
    return (name, items) :: columns
  | _ :: _ => .error .invalidShape

/-- The members of the record at one place of all columns. -/
def rowOfColumns (columns : List (String × List Json)) (row : Nat) : List (String × Json) :=
  columns.map fun column => (column.1, column.2[row]?.getD .null)

/-- Reads the records at the listed places of all columns. -/
def recordsOfColumns (columns : List (String × List Json)) :
    List Nat → Except RecordError (List Record)
  | [] => .ok []
  | row :: rest => do
    let record ← Record.ofMembers (rowOfColumns columns row)
    let records ← recordsOfColumns columns rest
    return record :: records

/-- The batch written as an object of columns. -/
def ofColumns (members : List (String × Json)) : Except RecordError RecordBatch := do
  let columns ← columnItems members
  let expected := (columns.head?.map (·.2.length)).getD 0
  match columns.find? fun column => column.2.length ≠ expected with
  | some (name, items) => throw (.columnLength name expected items.length)
  | none => return ⟨← recordsOfColumns columns (List.range expected)⟩

/-- The batch written in either layout. -/
def ofJson : Json → Except RecordError RecordBatch
  | .array rows => ofRows rows
  | .object members => ofColumns members
  | _ => .error .invalidShape

end RecordBatch

end DecisionFlow
