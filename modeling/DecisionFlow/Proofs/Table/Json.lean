import DecisionFlow.Proofs.Table.Rows
import DecisionFlow.Table.Csv

/-!
# Tables written and read again

A table that was made, whatever it was made from, has columns with different names and as many cells
in each row. Such a table can be read from the JSON forms of its columns and rows.
-/

set_option autoImplicit false

namespace DecisionFlow

namespace Cell

/-- The cell that the JSON form of a cell stands for. -/
def reread (cell : Cell) : Cell :=
  (ofJson? cell.toJson).getD .wildcard

/-- The JSON form of a cell is a scalar. -/
theorem ofJson?_toJson (cell : Cell) : ofJson? cell.toJson = some cell.reread := by
  unfold reread
  cases cell with
  | wildcard => rfl
  | literal value =>
      cases value with
      | double value =>
          simp only [toJson, Value.toJson]
          split
          · rfl
          · split <;> rfl
      | string text => rfl
      | bool value => rfl
      | null => rfl

end Cell

namespace DecisionTable

/-- There are columns with different names, and each row has a cell for each of them. -/
structure WellShaped (table : DecisionTable) : Prop where
  nonempty : table.columns ≠ []
  distinct : table.columns.Nodup
  rectangular : ∀ row ∈ table.rows, row.length = table.columns.length

/-- The table with its cells as they are read from their JSON forms. -/
def reread (table : DecisionTable) : DecisionTable :=
  { table with rows := table.rows.map fun row => row.map Cell.reread }

theorem WellShaped.reread {table : DecisionTable} (shaped : table.WellShaped) :
    table.reread.WellShaped := by
  refine ⟨shaped.nonempty, shaped.distinct, ?_⟩
  intro row member
  obtain ⟨original, isRow, rfl⟩ := List.mem_map.1 member
  rw [List.length_map]
  exact shaped.rectangular original isRow

/-! ## Making tables -/

theorem checkRows_eq_ok_iff {expected index : Nat} {rows : List (List Cell)} :
    checkRows expected index rows = .ok () ↔ ∀ row ∈ rows, row.length = expected := by
  induction rows generalizing index with
  | nil => simp [checkRows]
  | cons row rest ih =>
      by_cases fits : row.length = expected
      · simp [checkRows, fits, ih]
      · simp [checkRows, fits]

/-- Exactly the well-shaped tables can be made. -/
theorem make_eq_ok_iff {columns : List String} {rows : List (List Cell)} {table : DecisionTable} :
    make columns rows = .ok table ↔ table = ⟨columns, rows⟩ ∧ table.WellShaped := by
  unfold make
  split
  next empty =>
    constructor
    · rintro ⟨⟩
    · rintro ⟨rfl, shaped⟩
      exact absurd (List.isEmpty_iff.1 empty) shaped.nonempty
  next present =>
    split
    next repeated found =>
      constructor
      · rintro ⟨⟩
      · rintro ⟨rfl, shaped⟩
        have none := firstRepeated_eq_none_iff.2 shaped.distinct
        cases found.symm.trans none
    next notRepeated =>
      rw [bind_eq_ok_iff]
      constructor
      · rintro ⟨_, checked, ⟨⟩⟩
        exact ⟨rfl, fun empty => present (List.isEmpty_iff.2 empty),
          firstRepeated_eq_none_iff.1 notRepeated, checkRows_eq_ok_iff.1 checked⟩
      · rintro ⟨rfl, shaped⟩
        exact ⟨(), checkRows_eq_ok_iff.2 shaped.rectangular, rfl⟩

theorem wellShaped_of_ofJsonRows {columns : Option (List String)} {rows : List Json}
    {table : DecisionTable} (read : ofJsonRows columns rows = .ok table) : table.WellShaped := by
  cases columns with
  | some | none =>
      obtain ⟨names, -, read⟩ := bind_eq_ok_iff.1 read
      obtain ⟨cells, -, made⟩ := bind_eq_ok_iff.1 read
      exact (make_eq_ok_iff.1 made).2

theorem wellShaped_of_ofCsv {delimiter : UInt8} {bytes : List UInt8} {table : DecisionTable}
    (read : ofCsv delimiter bytes = .ok table) : table.WellShaped := by
  unfold ofCsv at read
  split at read
  · exact (make_eq_ok_iff.1 read).2
  · split at read
    · cases read
    · obtain ⟨cells, -, made⟩ := bind_eq_ok_iff.1 read
      exact (make_eq_ok_iff.1 made).2

/-! ## Reading what was written -/

theorem rowCells_toJson {columns : List String} {cells : List Cell}
    (fits : cells.length = columns.length) :
    RowCells columns (.array (cells.map Cell.toJson)) (cells.map Cell.reread) := by
  refine .array (by simpa using fits) ?_
  apply List.forall₂_map_left_iff.2
  apply List.forall₂_map_right_iff.2
  apply List.forall₂_same.2
  intro cell _
  exact cell.ofJson?_toJson

theorem cellsOfRows_toJson {columns : List String} (row : Nat) {rows : List (List Cell)}
    (rectangular : ∀ cells ∈ rows, cells.length = columns.length) :
    cellsOfRows columns row (rows.map fun cells => .array (cells.map Cell.toJson)) =
      .ok (rows.map fun cells => cells.map Cell.reread) := by
  apply (cellsOfRows_eq_ok_iff row).2
  apply List.forall₂_map_left_iff.2
  apply List.forall₂_map_right_iff.2
  apply List.forall₂_same.2
  intro cells isRow
  exact rowCells_toJson (rectangular cells isRow)

/-- A well-shaped table can be read from its columns and the JSON form of its rows. -/
theorem ofJsonRows_toJson {table : DecisionTable} (shaped : table.WellShaped) :
    ofJsonRows (some table.columns)
        (table.rows.map fun row => .array (row.map Cell.toJson)) = .ok table.reread := by
  have cells := cellsOfRows_toJson 0 shaped.rectangular
  exact bind_eq_ok_iff.2 ⟨table.columns, rfl, bind_eq_ok_iff.2
    ⟨_, cells, make_eq_ok_iff.2 ⟨rfl, shaped.reread⟩⟩⟩

end DecisionTable

end DecisionFlow
