import DecisionFlow.Proofs.Lists
import DecisionFlow.Proofs.Outcome
import DecisionFlow.Table.Rows

/-!
# Cells of JSON rows

Which cells a JSON row stands for is said without going through it: an array has a cell for each of
its items, and an object has a cell for each column, made of what stands under that name. Rows are
read exactly as this says, and a list of rows row by row (`DecisionTable.cellsOfRows_eq_ok_iff`).
-/

set_option autoImplicit false

namespace DecisionFlow

namespace DecisionTable

variable {columns : List String} {cells : List Cell}

/-- The cells of a row: those of the items of an array, or those of the members of an object in the
order of the columns. There are as many items or members as columns. -/
inductive RowCells (columns : List String) : Json → List Cell → Prop where
  | array {values : List Json} {cells : List Cell} (fits : values.length = columns.length)
      (inStep : List.Forall₂ (fun value cell => Cell.ofJson? value = some cell) values cells) :
      RowCells columns (.array values) cells
  | object {members : List (String × Json)} {cells : List Cell}
      (fits : members.length = columns.length)
      (inStep : List.Forall₂ (fun column cell =>
        ∃ value, Entries.find? members column = some value ∧ Cell.ofJson? value = some cell)
        columns cells) :
      RowCells columns (.object members) cells

/-- There is a cell for each column. -/
theorem RowCells.length_eq {json : Json} (areCells : RowCells columns json cells) :
    cells.length = columns.length := by
  cases areCells with
  | array fits inStep => exact inStep.length_eq.symm.trans fits
  | object _ inStep => exact inStep.length_eq.symm

theorem cellsOfArray_eq_ok_iff (row : Nat) {values : List Json}
    (fits : values.length = columns.length) :
    cellsOfArray row columns values = .ok cells ↔
      List.Forall₂ (fun value cell => Cell.ofJson? value = some cell) values cells := by
  induction columns generalizing values cells with
  | nil =>
      obtain rfl := List.eq_nil_of_length_eq_zero fits
      simp [cellsOfArray, eq_comm]
  | cons column columns ih =>
      cases values with
      | nil => cases fits
      | cons value values =>
          rw [List.forall₂_cons_left_iff]
          cases isCell : Cell.ofJson? value with
          | none => simp [cellsOfArray, isCell]
          | some cell =>
              simp only [cellsOfArray, isCell, bind_eq_ok_iff, ih (Nat.succ.inj fits)]
              constructor
              · rintro ⟨later, inStep, ⟨⟩⟩
                exact ⟨_, later, rfl, inStep, rfl⟩
              · rintro ⟨_, later, ⟨⟩, inStep, rfl⟩
                exact ⟨later, inStep, rfl⟩

theorem cellsOfObject_eq_ok_iff (row : Nat) {members : List (String × Json)} :
    cellsOfObject row members columns = .ok cells ↔
      List.Forall₂ (fun column cell =>
        ∃ value, Entries.find? members column = some value ∧ Cell.ofJson? value = some cell)
        columns cells := by
  induction columns generalizing cells with
  | nil => simp [cellsOfObject, eq_comm]
  | cons column columns ih =>
      simp only [List.forall₂_cons_left_iff, ← Option.bind_eq_some_iff]
      cases isCell : (Entries.find? members column).bind Cell.ofJson? with
      | none => simp [cellsOfObject, isCell]
      | some cell =>
          simp only [cellsOfObject, isCell, bind_eq_ok_iff, ih, ← Option.bind_eq_some_iff]
          constructor
          · rintro ⟨later, inStep, ⟨⟩⟩
            exact ⟨_, later, rfl, inStep, rfl⟩
          · rintro ⟨_, later, ⟨⟩, inStep, rfl⟩
            exact ⟨later, inStep, rfl⟩

theorem cellsOfRow_eq_ok_iff (row : Nat) {json : Json} :
    cellsOfRow columns row json = .ok cells ↔ RowCells columns json cells := by
  cases json with
  | array values =>
      by_cases fits : values.length = columns.length
      · rw [cellsOfRow, if_pos fits, cellsOfArray_eq_ok_iff row fits]
        exact ⟨.array fits, fun | .array _ inStep => inStep⟩
      · rw [cellsOfRow, if_neg fits]
        exact ⟨by rintro ⟨⟩, fun | .array same _ => absurd same fits⟩
  | object members =>
      by_cases fits : members.length = columns.length
      · rw [cellsOfRow, if_pos fits, cellsOfObject_eq_ok_iff]
        exact ⟨.object fits, fun | .object _ inStep => inStep⟩
      · rw [cellsOfRow, if_neg fits]
        exact ⟨by rintro ⟨⟩, fun | .object same _ => absurd same fits⟩
  | null | bool _ | int _ | float _ | string _ =>
      constructor
      · rintro ⟨⟩
      · rintro ⟨⟩

/-- Rows are read one by one. -/
theorem cellsOfRows_eq_ok_iff (row : Nat) {rows : List Json} {cells : List (List Cell)} :
    cellsOfRows columns row rows = .ok cells ↔ List.Forall₂ (RowCells columns) rows cells := by
  induction rows generalizing row cells with
  | nil => simp [cellsOfRows, eq_comm]
  | cons json rest ih =>
      simp only [List.forall₂_cons_left_iff, cellsOfRows, bind_eq_ok_iff, cellsOfRow_eq_ok_iff, ih]
      constructor
      · rintro ⟨here, areCells, later, inStep, ⟨⟩⟩
        exact ⟨here, later, areCells, inStep, rfl⟩
      · rintro ⟨here, later, areCells, inStep, rfl⟩
        exact ⟨here, areCells, later, inStep, rfl⟩

end DecisionTable

end DecisionFlow
