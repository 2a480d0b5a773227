import DecisionFlow.Proofs.Expression.RoundTrip
import DecisionFlow.Proofs.Table.Json

/-!
# Tables that are read back equal

In the rows of a table the wildcard text stands for a wildcard, so a cell with that very text as a
literal would not come back. No reader makes such a cell: a table that is read, from rows or from
delimited text, has only cells that last (`DecisionTable.Lasting`), and a table of such cells is read
back as an equal one (`DecisionTable.equal_again_of_read`).
-/

set_option autoImplicit false

namespace DecisionFlow

/-- Lists are equal to their images if all items are. -/
theorem map_beq {α : Type} [BEq α] {change : α → α} {items : List α}
    (same : ∀ item ∈ items, (change item == item) = true) : (items.map change == items) = true := by
  induction items with
  | nil => rfl
  | cons item rest ih =>
      obtain ⟨first, others⟩ := List.forall_mem_cons.1 same
      exact Bool.and_eq_true_iff.2 ⟨first, ih others⟩

namespace Cell

/-- The cell is read back as an equal one: it is no text that reads as a wildcard, and no number
without a JSON form. -/
def Lasting : Cell → Prop
  | .wildcard => True
  | .literal (.string text) => text ≠ wildcardText
  | .literal value => value.IsFinite

theorem ofJson?_of_ne_string {json : Json} (other : ∀ text, json ≠ .string text) :
    ofJson? json = (Value.ofJson? json).map .literal := by
  cases json with
  | string text => exact absurd rfl (other text)
  | _ => rfl

theorem toJson_double_ne_string (value : Double) (text : String) :
    (Value.double value).toJson ≠ .string text := by
  simp only [Value.toJson]
  split
  · simp
  · split <;> simp

theorem reread_beq {cell : Cell} (lasting : cell.Lasting) : (cell.reread == cell) = true := by
  cases cell with
  | wildcard => rfl
  | literal value =>
      cases value with
      | double value =>
          have same : reread (.literal (.double value)) = .literal (Value.reread (.double value)) := by
            rw [reread, toJson, ofJson?_of_ne_string (toJson_double_ne_string value),
              Value.ofJson?_toJson]
            rfl
          rw [same]
          exact Value.reread_beq lasting
      | string text =>
          have same : reread (.literal (.string text)) = .literal (.string text) :=
            congrArg (fun cell => (some cell).getD .wildcard) (if_neg lasting)
          rw [same]
          exact beq_self_eq_true text
      | bool value => exact beq_self_eq_true value
      | null => rfl

/-- The cells are both wildcards, or literals that are equal as values. -/
inductive Alike : Cell → Cell → Prop where
  | wildcard : Alike .wildcard .wildcard
  | literal {value other : Value} (same : (value == other) = true) :
      Alike (.literal value) (.literal other)

theorem alike_of_beq {cell other : Cell} (same : (cell == other) = true) : Alike cell other := by
  cases cell with
  | wildcard =>
      cases other with
      | wildcard => exact .wildcard
      | literal => cases same
  | literal =>
      cases other with
      | wildcard => cases same
      | literal => exact .literal same

theorem lasting_of_ofJson? {json : Json} {cell : Cell} (finite : json.IsFinite)
    (read : ofJson? json = some cell) : cell.Lasting := by
  cases json with
  | string text =>
      obtain rfl := Option.some.inj read
      by_cases wild : text = wildcardText
      · rw [if_pos wild]
        trivial
      · rw [if_neg wild]
        exact wild
  | int _ | float _ =>
      cases read
      exact Value.isFinite_number_iff.2 finite
  | null | bool _ =>
      cases read
      trivial
  | array _ | object _ => cases read

end Cell

/-- A numeral is not read beyond the finite numbers. -/
theorem Decimal.isFinite_of_ofText? {text : String} {value : Float}
    (read : ofText? text = some value) : isFinite value = true := by
  have checked : ∀ {unread : Option Float}, (unread.bind fun value =>
      if isFinite value = true then some value else none) = some value → isFinite value = true := by
    intro unread read
    obtain ⟨found, -, read⟩ := Option.bind_eq_some_iff.1 read
    split at read
    next finite =>
      cases read
      exact finite
    next => cases read
  unfold ofText? at read
  dsimp only at read
  split at read
  all_goals exact checked read

theorem Csv.lasting_cell (text : String) : (cell text).Lasting := by
  unfold cell
  split
  · trivial
  next notWild =>
    split
    · trivial
    · split
      · trivial
      · split
        · trivial
        · split
          next isNumber =>
            exact Value.isFinite_number_iff.2 (Decimal.isFinite_of_ofText? isNumber)
          next => exact notWild

namespace DecisionTable

/-- All cells are read back as equal ones. -/
def Lasting (table : DecisionTable) : Prop :=
  ∀ row ∈ table.rows, ∀ cell ∈ row, cell.Lasting

theorem reread_beq {table : DecisionTable} (lasting : table.Lasting) :
    (table.reread == table) = true := by
  refine Bool.and_eq_true_iff.2 ⟨beq_self_eq_true table.columns, map_beq fun row isRow => ?_⟩
  exact map_beq fun cell isCell => Cell.reread_beq (lasting row isRow cell isCell)

theorem alike_reread {table : DecisionTable} (lasting : table.Lasting) :
    List.Forall₂ (List.Forall₂ Cell.Alike) table.reread.rows table.rows := by
  apply List.forall₂_map_left_iff.2
  apply List.forall₂_same.2
  intro row isRow
  apply List.forall₂_map_left_iff.2
  apply List.forall₂_same.2
  intro cell isCell
  exact Cell.alike_of_beq (Cell.reread_beq (lasting row isRow cell isCell))

/-! ## Tables that are read -/

theorem RowCells.lasting {columns : List String} {json : Json} {cells : List Cell}
    (areCells : RowCells columns json cells) (finite : json.IsFinite) :
    ∀ cell ∈ cells, cell.Lasting := by
  intro cell isCell
  cases areCells with
  | array _ inStep =>
      obtain ⟨value, isValue, read⟩ := exists_left_of_mem inStep isCell
      exact Cell.lasting_of_ofJson? (Json.itemsFinite_iff.1 finite value isValue) read
  | object _ inStep =>
      obtain ⟨column, -, value, found, read⟩ := exists_left_of_mem inStep isCell
      have isMember := Entries.mem_of_find? found
      exact Cell.lasting_of_ofJson? (Json.membersFinite_iff.1 finite _ isMember) read

theorem lasting_of_ofJsonRows {columns : Option (List String)} {rows : List Json}
    {table : DecisionTable} (finite : ∀ json ∈ rows, json.IsFinite)
    (read : ofJsonRows columns rows = .ok table) : table.Lasting := by
  cases columns with
  | some | none =>
      obtain ⟨names, -, read⟩ := bind_eq_ok_iff.1 read
      obtain ⟨cells, isCells, made⟩ := bind_eq_ok_iff.1 read
      obtain ⟨rfl, -⟩ := make_eq_ok_iff.1 made
      intro row isRow
      obtain ⟨json, isJson, areCells⟩ :=
        exists_left_of_mem ((cellsOfRows_eq_ok_iff 0).1 isCells) isRow
      exact areCells.lasting (finite json isJson)

/-- The table of a header and of records whose fields are texts. -/
def ofRecords (header : List String) (records : List (List String)) :
    Except TableError DecisionTable :=
  make header (records.map fun record => record.map Csv.cell)

theorem lasting_of_ofRecords {header : List String} {records : List (List String)}
    {table : DecisionTable} (read : ofRecords header records = .ok table) : table.Lasting := by
  obtain ⟨rfl, -⟩ := make_eq_ok_iff.1 read
  intro row isRow cell isCell
  obtain ⟨record, -, rfl⟩ := List.mem_map.1 isRow
  obtain ⟨text, -, rfl⟩ := List.mem_map.1 isCell
  exact Csv.lasting_cell text

theorem exists_records_of_cellsOfRecords {expected row : Nat} {records : List (List (List UInt8))}
    {cells : List (List Cell)} (read : Csv.cellsOfRecords expected row records = .ok cells) :
    ∃ texts : List (List String), cells = texts.map fun record => record.map Csv.cell := by
  induction records generalizing row cells with
  | nil =>
      cases read
      exact ⟨[], rfl⟩
  | cons record rest ih =>
      unfold Csv.cellsOfRecords at read
      split at read
      · split at read
        next => cases read
        next here _ =>
          obtain ⟨others, isOthers, read⟩ := bind_eq_ok_iff.1 read
          cases read
          obtain ⟨later, rfl⟩ := ih isOthers
          exact ⟨here :: later, rfl⟩
      · cases read

/-- Delimited text makes a table in no other way than by its header and its records. -/
theorem exists_ofRecords_of_ofCsv {delimiter : UInt8} {bytes : List UInt8} {table : DecisionTable}
    (read : ofCsv delimiter bytes = .ok table) :
    ∃ header records, ofRecords header records = .ok table := by
  unfold ofCsv at read
  split at read
  · exact ⟨[], [], read⟩
  · split at read
    next => cases read
    next header _ =>
      obtain ⟨cells, isCells, made⟩ := bind_eq_ok_iff.1 read
      obtain ⟨records, rfl⟩ := exists_records_of_cellsOfRecords isCells
      exact ⟨header, records, made⟩

theorem lasting_of_ofCsv {delimiter : UInt8} {bytes : List UInt8} {table : DecisionTable}
    (read : ofCsv delimiter bytes = .ok table) : table.Lasting := by
  obtain ⟨_, _, made⟩ := exists_ofRecords_of_ofCsv read
  exact lasting_of_ofRecords made

/-- The table was read: from delimited text, from the header and the records that any reader of such
text yields, or from JSON rows, in which all numbers are finite. -/
inductive Read (table : DecisionTable) : Prop where
  | delimited (delimiter : UInt8) (bytes : List UInt8) (read : ofCsv delimiter bytes = .ok table)
  | records (header : List String) (records : List (List String))
      (read : ofRecords header records = .ok table)
  | json (columns : Option (List String)) (rows : List Json) (finite : ∀ json ∈ rows, json.IsFinite)
      (read : ofJsonRows columns rows = .ok table)

namespace Read

variable {table : DecisionTable}

theorem lasting (read : table.Read) : table.Lasting := by
  cases read with
  | delimited _ _ read => exact lasting_of_ofCsv read
  | records _ _ read => exact lasting_of_ofRecords read
  | json _ _ finite read => exact lasting_of_ofJsonRows finite read

theorem wellShaped (read : table.Read) : table.WellShaped := by
  cases read with
  | delimited _ _ read => exact wellShaped_of_ofCsv read
  | records _ _ read => exact (make_eq_ok_iff.1 read).2
  | json _ _ _ read => exact wellShaped_of_ofJsonRows read

end Read

/-- **Tables are read back equal.** The JSON forms of the columns and the rows of a table that was
read make an equal table: with the same columns and, cell by cell, wildcards for wildcards and equal
literals for literals. -/
theorem equal_again_of_read {table : DecisionTable} (read : table.Read) :
    ∃ columns rows again, table.columnsToJson = .array (columns.map .string) ∧
      table.rowsToJson = .array rows ∧ ofJsonRows (some columns) rows = .ok again ∧
      (again == table) = true ∧ again.columns = table.columns ∧
      List.Forall₂ (List.Forall₂ Cell.Alike) again.rows table.rows :=
  ⟨table.columns, _, table.reread, rfl, rfl, ofJsonRows_toJson read.wellShaped,
    reread_beq read.lasting, rfl, alike_reread read.lasting⟩

/-- A table with a zero that has a sign, a wildcard and a null. -/
def levels : DecisionTable where
  columns := ["level", "note"]
  rows := [[.literal (.number (-0.0)), .literal (.string "top")], [.wildcard, .literal .null]]

/-- The table is read from text with semicolons, and its zero is written without a sign. -/
theorem equal_again_of_read_levels :
    ofCsv 0x3b "level;note\n-0;top\n*;\n".toUTF8.toList = .ok levels ∧
      ∃ columns rows again, levels.columnsToJson = .array (columns.map .string) ∧
        levels.rowsToJson = .array rows ∧ ofJsonRows (some columns) rows = .ok again ∧
        (again == levels) = true ∧ again.columns = levels.columns ∧
        List.Forall₂ (List.Forall₂ Cell.Alike) again.rows levels.rows := by
  have bytes : "level;note\n-0;top\n*;\n".toUTF8.toList =
      [108, 101, 118, 101, 108, 59, 110, 111, 116, 101, 10, 45, 48, 59, 116, 111,
        112, 10, 42, 59, 10] := by decide +kernel
  have read : ofCsv 0x3b "level;note\n-0;top\n*;\n".toUTF8.toList = .ok levels := by
    rw [bytes]
    rfl
  exact ⟨read, equal_again_of_read (.delimited _ _ read)⟩

end DecisionTable

end DecisionFlow
