import DecisionFlow.Table.Basic
import DecisionFlow.Text.Blank

/-!
# Tables from comma separated text

The first record names the columns. Fields are separated by one delimiter byte and records by line
ends; a field may stand between double quotes, inside of which a quote is written twice. Empty lines
are skipped, a byte order mark at the start is ignored, and blanks around a field do not belong to
it.

Cells are typed by their text: `*` is a wildcard, an empty field is null, `true` and `false` are
booleans, a decimal numeral is a number and anything else is a string.
-/

set_option autoImplicit false

namespace DecisionFlow

namespace Csv

/-! ## Splitting bytes into records -/

/-- Where the reader stands. -/
inductive Place where
  | recordStart
  | fieldStart
  | inField
  | inQuotes
  /-- After a quote inside quotes: the end of the quoted part, or half of a doubled quote. -/
  | afterQuote
  deriving DecidableEq

/-- What is done with a byte. -/
inductive Effect where
  | drop
  | keep
  | endField
  | endRecord
  deriving DecidableEq

/-- The double quote. -/
def quoteByte : UInt8 := 0x22

/-- A carriage return or a line feed. -/
def isLineEnd (byte : UInt8) : Bool :=
  byte == 0x0d || byte == 0x0a

/-- Reading a byte outside quotes that is not the start of a field. -/
def nextInField (delimiter byte : UInt8) : Place × Effect :=
  if byte = delimiter then (.fieldStart, .endField)
  else if isLineEnd byte then (.recordStart, .endRecord)
  else (.inField, .keep)

/-- Reading a byte at the start of a field. -/
def nextAtStart (delimiter byte : UInt8) : Place × Effect :=
  if byte = quoteByte then (.inQuotes, .drop) else nextInField delimiter byte

/-- Reading a byte: where it leads and what is done with it. -/
def next (delimiter : UInt8) (place : Place) (byte : UInt8) : Place × Effect :=
  match place with
  | .recordStart =>
    if isLineEnd byte then (.recordStart, .drop) else nextAtStart delimiter byte
  | .fieldStart => nextAtStart delimiter byte
  | .inField => nextInField delimiter byte
  | .inQuotes => if byte = quoteByte then (.afterQuote, .drop) else (.inQuotes, .keep)
  | .afterQuote =>
    if byte = quoteByte then (.inQuotes, .keep) else nextInField delimiter byte

/-- The records of the remaining bytes. `field` holds the bytes of the current field and `fields`
the finished fields of the current record, both in reverse. -/
def splitFrom (delimiter : UInt8) (place : Place) (field : List UInt8)
    (fields : List (List UInt8)) : List UInt8 → List (List (List UInt8))
  | [] =>
    match place with
    | .recordStart => []
    | _ => [(field.reverse :: fields).reverse]
  | byte :: rest =>
    match next delimiter place byte with
    | (place, .drop) => splitFrom delimiter place field fields rest
    | (place, .keep) => splitFrom delimiter place (byte :: field) fields rest
    | (place, .endField) => splitFrom delimiter place [] (field.reverse :: fields) rest
    | (place, .endRecord) =>
      (field.reverse :: fields).reverse :: splitFrom delimiter place [] [] rest

/-- The bytes without a byte order mark at their start. -/
def withoutMark : List UInt8 → List UInt8
  | 0xef :: 0xbb :: 0xbf :: rest => rest
  | bytes => bytes

/-- The records of a text, each a list of fields. -/
def split (delimiter : UInt8) (bytes : List UInt8) : List (List (List UInt8)) :=
  splitFrom delimiter .recordStart [] [] (withoutMark bytes)

/-! ## Fields -/

/-- The text of a field, without the blanks around it. -/
def fieldText? (field : List UInt8) : Option String :=
  (String.fromUTF8? ⟨field.toArray⟩).map Text.trim

/-- The texts of a record, if all its fields are texts. -/
def recordTexts? : List (List UInt8) → Option (List String)
  | [] => some []
  | field :: rest => do
    let text ← fieldText? field
    let texts ← recordTexts? rest
    return text :: texts

/-- The cell that a field stands for. -/
def cell (text : String) : Cell :=
  if text = wildcardText then .wildcard
  else if text = "" then .literal .null
  else if text = "true" then .literal (.bool true)
  else if text = "false" then .literal (.bool false)
  else
    match Decimal.ofText? text with
    | some value => .literal (.number value)
    | none => .literal (.string text)

/-- The cells of the records after the first, counted from `row`. A record of a wrong length is
noticed before its text is looked at. -/
def cellsOfRecords (expected row : Nat) :
    List (List (List UInt8)) → Except TableError (List (List Cell))
  | [] => .ok []
  | record :: rest =>
    if record.length = expected then
      match recordTexts? record with
      | none => .error .unreadable
      | some texts => do
        let others ← cellsOfRecords expected (row + 1) rest
        return texts.map cell :: others
    else .error (.raggedRow row expected record.length)

end Csv

namespace DecisionTable

/-- The table written in delimited text. -/
def ofCsv (delimiter : UInt8) (bytes : List UInt8) : Except TableError DecisionTable :=
  match Csv.split delimiter bytes with
  | [] => make [] []
  | header :: records =>
    match Csv.recordTexts? header with
    | none => .error .unreadable
    | some columns => do make columns (← Csv.cellsOfRecords header.length 0 records)

/-- The comma. -/
def comma : UInt8 := 0x2c

/-- The table written in comma separated text. -/
def ofCsvText (text : String) : Except TableError DecisionTable :=
  ofCsv comma text.toUTF8.toList

end DecisionTable

end DecisionFlow
