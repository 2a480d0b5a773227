import DecisionFlow.Batch.Record
import Mathlib.Data.List.Forall2

/-!
# The two layouts of a batch

Columns of one length hold a table, and so do the rows that have, under the name of each column, its
items. A batch is the same in both layouts, also when some items have no value: then both report the
same field. Columns of different lengths hold no table, and the first of them that is not as long as
the very first one is reported (`RecordBatch.ofColumns_reads_rows`).
-/

set_option autoImplicit false

namespace DecisionFlow

namespace RecordBatch

variable {columns : List (String × List Json)} {rows : List Json}

/-- The members of an object of columns. -/
def columnMembers (columns : List (String × List Json)) : List (String × Json) :=
  columns.map fun column => (column.1, .array column.2)

/-- All columns are of one length. -/
def HaveOneLength (columns : List (String × List Json)) : Prop :=
  ∃ height, ∀ column ∈ columns, column.2.length = height

/-- The number of items of the first column, with which all others are compared. -/
def firstLength (columns : List (String × List Json)) : Nat :=
  (columns.head?.map (·.2.length)).getD 0

theorem haveOneLength_iff :
    HaveOneLength columns ↔ ∀ column ∈ columns, column.2.length = firstLength columns := by
  constructor
  · rintro ⟨height, even⟩ column member
    obtain ⟨first, rest, rfl⟩ := List.exists_cons_of_ne_nil (List.ne_nil_of_mem member)
    exact (even column member).trans (even first List.mem_cons_self).symm
  · exact fun even => ⟨_, even⟩

/-! ## Rows and columns of one table -/

/-- The row at a place of a table: an object that has, under the name of each column, the item of the
column at that place. -/
def IsRowAt (columns : List (String × List Json)) (place : Nat) (row : Json) : Prop :=
  ∃ members, row = .object members ∧
    List.Forall₂ (fun column member => member.1 = column.1 ∧ column.2[place]? = some member.2)
      columns members

/-- The rows of the table that columns of one length hold. Without columns there are no rows. -/
structure IsTransposed (columns : List (String × List Json)) (rows : List Json) : Prop where
  height : ∀ column ∈ columns, column.2.length = rows.length
  nothing : columns = [] → rows = []
  row : ∀ place row, rows[place]? = some row → IsRowAt columns place row

theorem isRowAt_iff {place : Nat} {row : Json}
    (inside : ∀ column ∈ columns, place < column.2.length) :
    IsRowAt columns place row ↔ row = .object (rowOfColumns columns place) := by
  constructor
  · rintro ⟨members, rfl, inStep⟩
    congr 1
    clear inside
    induction inStep with
    | nil => rfl
    | cons head _ ih =>
        obtain ⟨sameName, isItem⟩ := head
        rw [rowOfColumns, List.map_cons, isItem, Option.getD_some, ← sameName, ← rowOfColumns, ← ih]
  · rintro rfl
    refine ⟨_, rfl, List.forall₂_map_right_iff.2 (List.forall₂_same.2 fun column member => ⟨rfl, ?_⟩)⟩
    rw [List.getElem?_eq_getElem (inside column member), Option.getD_some]

/-- The rows of a table, read off its columns. -/
def rowsOfColumns (columns : List (String × List Json)) : List Json :=
  (List.range (firstLength columns)).map fun place => .object (rowOfColumns columns place)

theorem IsTransposed.eq_rowsOfColumns (transposed : IsTransposed columns rows) :
    rows = rowsOfColumns columns := by
  have length : rows.length = firstLength columns := by
    cases columns with
    | nil => rw [transposed.nothing rfl]; rfl
    | cons first rest => exact (transposed.height first List.mem_cons_self).symm
  refine List.ext_getElem (by simp [rowsOfColumns, length]) fun place inside _ => ?_
  have isRow := transposed.row place _ (List.getElem?_eq_getElem inside)
  have reached : ∀ column ∈ columns, place < column.2.length := fun column member => by
    rwa [transposed.height column member]
  simpa [rowsOfColumns] using (isRowAt_iff reached).1 isRow

theorem HaveOneLength.isTransposed (even : HaveOneLength columns) :
    IsTransposed columns (rowsOfColumns columns) := by
  rw [haveOneLength_iff] at even
  refine ⟨by simpa [rowsOfColumns] using even, by rintro rfl; rfl, fun place row found => ?_⟩
  obtain ⟨inside, isRow⟩ := by
    simpa [rowsOfColumns, List.getElem?_eq_some_iff] using found
  exact (isRowAt_iff fun column member => by rwa [even column member]).2 isRow.symm

/-! ## Reading columns -/

theorem columnItems_columnMembers (columns : List (String × List Json)) :
    columnItems (columnMembers columns) = .ok columns := by
  induction columns with
  | nil => rfl
  | cons column rest ih =>
      have step : columnItems (columnMembers (column :: rest)) =
          (do return column :: (← columnItems (columnMembers rest))) := rfl
      rw [step, ih]
      rfl

/-- Columns are compared with the first one and then read place by place. -/
theorem ofColumns_columnMembers (columns : List (String × List Json)) :
    ofColumns (columnMembers columns) =
      match columns.find? fun column => column.2.length ≠ firstLength columns with
      | some (name, items) => .error (.columnLength name (firstLength columns) items.length)
      | none => do return ⟨← recordsOfColumns columns (List.range (firstLength columns))⟩ := by
  rw [ofColumns, columnItems_columnMembers]
  rfl

theorem recordsOfRows_map (columns : List (String × List Json)) (first : Nat) (places : List Nat) :
    recordsOfRows first (places.map fun place => .object (rowOfColumns columns place)) =
      recordsOfColumns columns places := by
  induction places generalizing first with
  | nil => rfl
  | cons place rest ih => rw [List.map_cons, recordsOfRows, recordsOfColumns, ih]

/-- Columns of one length are read like the rows of their table. -/
theorem HaveOneLength.ofColumns_eq (even : HaveOneLength columns) :
    ofColumns (columnMembers columns) = ofRows (rowsOfColumns columns) := by
  have allFit : (columns.find? fun column => column.2.length ≠ firstLength columns) = none := by
    simpa [List.find?_eq_none] using haveOneLength_iff.1 even
  rw [ofColumns_columnMembers, allFit, ofRows, rowsOfColumns, recordsOfRows_map]

/-! ## Columns of different lengths -/

/-- The first column, in the order of the names, that is not as long as the very first one, with the
lengths of both. -/
structure IsFirstUneven (columns : List (String × List Json)) (name : String)
    (expected found : Nat) : Prop where
  compared : ∃ first ∈ columns, first.2.length = expected ∧ ∀ other ∈ columns, first.1 ≤ other.1
  uneven : ∃ column ∈ columns, column.1 = name ∧ column.2.length = found ∧ found ≠ expected
  least : ∀ column ∈ columns, column.2.length ≠ expected → name ≤ column.1

/-- Of columns in the order of their names, none that follows a column has an earlier name. -/
theorem le_of_increasing {later : List (String × List Json)} {column : String × List Json}
    (increasing : Entries.Increasing (column :: later)) :
    ∀ other ∈ column :: later, column.1 ≤ other.1 := by
  obtain ⟨above, -⟩ := List.pairwise_cons.1 increasing
  intro other member
  rcases List.mem_cons.1 member with rfl | member
  · exact String.le_refl _
  · exact String.not_lt.1 (String.lt_asymm (above other member))

theorem increasing_of_columnMembers (object : Entries.Increasing (columnMembers columns)) :
    Entries.Increasing columns := by
  simpa [Entries.Increasing, columnMembers, List.pairwise_map] using object

/-- Columns of different lengths are refused. -/
theorem ofColumns_eq_error (object : Entries.Increasing (columnMembers columns))
    (uneven : ¬ HaveOneLength columns) :
    ∃ name expected found, IsFirstUneven columns name expected found ∧
      ofColumns (columnMembers columns) = .error (.columnLength name expected found) := by
  have increasing := increasing_of_columnMembers object
  rw [ofColumns_columnMembers]
  cases differs : columns.find? fun column => column.2.length ≠ firstLength columns with
  | none =>
      refine absurd (haveOneLength_iff.2 ?_) uneven
      simpa [List.find?_eq_none] using differs
  | some column =>
      refine ⟨column.1, firstLength columns, column.2.length, ⟨?_, ?_, ?_⟩, rfl⟩
      · obtain ⟨first, rest, rfl⟩ :=
          List.exists_cons_of_ne_nil (List.ne_nil_of_mem (List.mem_of_find?_eq_some differs))
        exact ⟨first, List.mem_cons_self, rfl, le_of_increasing increasing⟩
      · exact ⟨column, List.mem_of_find?_eq_some differs, rfl, rfl,
          by simpa using List.find?_some differs⟩
      · obtain ⟨-, earlier, later, rfl, same⟩ := List.find?_eq_some_iff_append.1 differs
        intro other member different
        rcases List.mem_append.1 member with isEarlier | isLater
        · simpa [different] using same other isEarlier
        · exact le_of_increasing (List.pairwise_append.1 increasing).2.1 other isLater

/-- **Both layouts are read alike.** An object whose members are columns of one length is read exactly
like the rows of its table, to the same batch or to the same error. If the lengths differ, the first
column in the order of the names that is not as long as the very first one is reported. -/
theorem ofColumns_reads_rows (columns : List (String × List Json))
    (object : Entries.Increasing (columnMembers columns)) :
    (HaveOneLength columns → (∃ rows, IsTransposed columns rows) ∧
      ∀ rows, IsTransposed columns rows → ofColumns (columnMembers columns) = ofRows rows) ∧
    (¬ HaveOneLength columns → ∃ name expected found, IsFirstUneven columns name expected found ∧
      ofColumns (columnMembers columns) = .error (.columnLength name expected found)) := by
  refine ⟨fun even => ⟨⟨_, even.isTransposed⟩, fun rows transposed => ?_⟩, ofColumns_eq_error object⟩
  rw [transposed.eq_rowsOfColumns]
  exact even.ofColumns_eq

/-- Two columns of two items, of which one in each row has no value. -/
def nested : List (String × List Json) :=
  [("a", [.int 1, .array []]), ("b", [.object [], .int 2])]

/-- The rows of `nested`. -/
def nestedRows : List Json :=
  [.object [("a", .int 1), ("b", .object [])], .object [("a", .array []), ("b", .int 2)]]

/-- Four columns, of which two are not as long as the first. -/
def ragged : List (String × List Json) :=
  [("a", [.int 1, .int 2]), ("b", [.null, .null]), ("c", [.null]), ("d", [])]

/-- The item without a value in the first row is reported, although its column is not the first. -/
theorem ofColumns_reads_rows_of_nested :
    (Entries.Increasing (columnMembers nested) ∧ HaveOneLength nested ∧
      IsTransposed nested nestedRows ∧
      ofColumns (columnMembers nested) = ofRows nestedRows ∧
      ofRows nestedRows = .error (.notScalar "b")) ∧
    Entries.Increasing (columnMembers ragged) ∧ ¬ HaveOneLength ragged ∧
      (∃ name expected found, IsFirstUneven ragged name expected found ∧
        ofColumns (columnMembers ragged) = .error (.columnLength name expected found)) ∧
      ofColumns (columnMembers ragged) = .error (.columnLength "c" 2 1) := by
  have object : Entries.Increasing (columnMembers nested) := by
    unfold Entries.Increasing
    decide
  have raggedObject : Entries.Increasing (columnMembers ragged) := by
    unfold Entries.Increasing
    decide
  have even : HaveOneLength nested := ⟨2, by decide⟩
  have uneven : ¬ HaveOneLength ragged := by
    rw [haveOneLength_iff]
    decide
  have transposed : IsTransposed nested nestedRows := even.isTransposed
  exact ⟨⟨object, even, transposed, ((ofColumns_reads_rows nested object).1 even).2 _ transposed, rfl⟩,
    raggedObject, uneven, (ofColumns_reads_rows ragged raggedObject).2 uneven, rfl⟩

end RecordBatch

end DecisionFlow
