import DecisionFlow.Proofs.Lists
import DecisionFlow.Proofs.Table.Json

/-!
# Looking up tables

A lookup translates the wanted columns into positions and goes through the rows from the top. In a
table with different column names and a cell for each of them in each row, every position has a cell
in every row, and it is the cell of the column that was asked for. So a lookup finds the first row
that matches, and it fails only if a wanted column does not exist or no row matches
(`lookup_of_loaded`).
-/

set_option autoImplicit false

namespace DecisionFlow

/-- A wildcard accepts everything, a literal what it is equal to. -/
theorem Cell.accepts_iff {cell : Cell} {wanted : Value} :
    cell.accepts wanted = true ↔
      cell = .wildcard ∨ ∃ value, cell = .literal value ∧ (value == wanted) = true := by
  cases cell <;> simp [accepts]

namespace DecisionTable

variable {table : DecisionTable} {column : String} {row : Nat} {wanted : List (String × Value)}
  {keys : List (Nat × Value)}

/-! ## Cells -/

/-- The table has a cell in a row and a column. -/
def HasCell (table : DecisionTable) (row : Nat) (column : String) (cell : Cell) : Prop :=
  ∃ (cells : List Cell) (index : Nat), table.rows[row]? = some cells ∧
    table.columns[index]? = some column ∧ cells[index]? = some cell

theorem columnIndex?_lt {index : Nat} (found : table.columnIndex? column = some index) :
    index < table.columns.length :=
  (List.findIdx?_eq_some_iff_getElem.1 found).1

theorem columnIndex?_eq_none_iff : table.columnIndex? column = none ↔ column ∉ table.columns := by
  simp only [columnIndex?, List.findIdx?_eq_none_iff, beq_eq_false_iff_ne]
  exact ⟨fun others member => others column member rfl,
    fun absent other member same => absent (same ▸ member)⟩

theorem columnIndex?_eq_some_iff (distinct : table.columns.Nodup) {index : Nat} :
    table.columnIndex? column = some index ↔ table.columns[index]? = some column := by
  rw [columnIndex?, findIdx?_eq_some_iff_isLeast]
  constructor
  · rintro ⟨⟨name, found, same⟩, -⟩
    rwa [← eq_of_beq same]
  · intro found
    refine ⟨⟨column, found, beq_self_eq_true column⟩, ?_⟩
    rintro place ⟨name, atPlace, same⟩
    rw [eq_of_beq same] at atPlace
    exact (place_unique distinct found atPlace).le

namespace WellShaped

/-- Every column has a cell in every row. -/
theorem exists_cell (shaped : table.WellShaped) (inside : row < table.rows.length)
    (known : column ∈ table.columns) : ∃ cell, table.HasCell row column cell := by
  obtain ⟨index, isColumn⟩ := List.mem_iff_getElem?.1 known
  have isCell : index < table.rows[row].length := by
    rw [shaped.rectangular _ (List.getElem_mem inside)]
    exact (List.getElem?_eq_some_iff.1 isColumn).1
  exact ⟨table.rows[row][index], _, index, List.getElem?_eq_getElem inside, isColumn,
    List.getElem?_eq_getElem isCell⟩

/-- A column has one cell in a row. -/
theorem cell_unique (shaped : table.WellShaped) {cell other : Cell}
    (here : table.HasCell row column cell) (there : table.HasCell row column other) :
    cell = other := by
  obtain ⟨cells, index, isRow, isColumn, isCell⟩ := here
  obtain ⟨cells', index', isRow', isColumn', isCell'⟩ := there
  obtain rfl := Option.some.inj (isRow.symm.trans isRow')
  obtain rfl := place_unique shaped.distinct isColumn isColumn'
  exact Option.some.inj (isCell.symm.trans isCell')

theorem value?_of_hasCell (shaped : table.WellShaped) {cell : Cell}
    (here : table.HasCell row column cell) : table.value? row column = some cell.value := by
  obtain ⟨cells, index, isRow, isColumn, isCell⟩ := here
  simp [value?, (columnIndex?_eq_some_iff shaped.distinct).2 isColumn, isRow, isCell]

end WellShaped

/-! ## Wanted columns -/

/-- The first wanted column that does not exist. -/
def firstAbsent? (table : DecisionTable) (wanted : List (String × Value)) : Option String :=
  (wanted.map Prod.fst).find? fun column => column ∉ table.columns

/-- Keys are the positions of the wanted columns, with the wanted values. -/
theorem resolveKeys_eq_ok_iff :
    table.resolveKeys wanted = .ok keys ↔
      List.Forall₂ (fun entry key => table.columnIndex? entry.1 = some key.1 ∧ entry.2 = key.2)
        wanted keys := by
  induction wanted generalizing keys with
  | nil => simp [resolveKeys, eq_comm]
  | cons entry rest ih =>
      obtain ⟨column, value⟩ := entry
      rw [List.forall₂_cons_left_iff]
      cases found : table.columnIndex? column with
      | none => simp [resolveKeys, found]
      | some index =>
          simp only [resolveKeys, found, bind_eq_ok_iff, ih]
          constructor
          · rintro ⟨later, inStep, ⟨⟩⟩
            exact ⟨_, later, ⟨rfl, rfl⟩, inStep, rfl⟩
          · rintro ⟨⟨_, _⟩, later, ⟨⟨⟩, rfl⟩, inStep, rfl⟩
            exact ⟨later, inStep, rfl⟩

/-- Keys cannot be had if a wanted column does not exist, and the first such column is named. -/
theorem resolveKeys_eq_error_iff {problem : LookupError} :
    table.resolveKeys wanted = .error problem ↔
      ∃ column, table.firstAbsent? wanted = some column ∧ .missingColumn column = problem := by
  induction wanted with
  | nil => simp [resolveKeys, firstAbsent?]
  | cons entry rest ih =>
      obtain ⟨column, value⟩ := entry
      cases found : table.columnIndex? column with
      | none => simp [resolveKeys, found, firstAbsent?, columnIndex?_eq_none_iff.1 found]
      | some index =>
          have known : column ∈ table.columns := by
            by_contra absent
            cases found.symm.trans (columnIndex?_eq_none_iff.2 absent)
          have same : table.firstAbsent? ((column, value) :: rest) = table.firstAbsent? rest := by
            simp [firstAbsent?, known]
          rw [same, ← ih]
          cases later : table.resolveKeys rest <;>
            simp [resolveKeys, found, later, bind, Except.bind, pure, Except.pure]

/-- Keys are looked for in columns of the table. -/
theorem lt_of_resolveKeys (resolved : table.resolveKeys wanted = .ok keys) :
    ∀ key ∈ keys, key.1 < table.columns.length := by
  intro key member
  obtain ⟨entry, -, found, -⟩ := exists_left_of_mem (resolveKeys_eq_ok_iff.1 resolved) member
  exact columnIndex?_lt found

/-! ## Rows -/

/-- Whether a row matches can be told if it has all cells that are looked at. -/
theorem isSome_rowMatches {cells : List Cell} (inside : ∀ key ∈ keys, key.1 < cells.length) :
    (rowMatches cells keys).isSome = true := by
  induction keys with
  | nil => rfl
  | cons key rest ih =>
      obtain ⟨here, later⟩ := List.forall_mem_cons.1 inside
      rw [rowMatches, List.getElem?_eq_getElem here]
      dsimp only
      split
      · exact ih later
      · rfl

/-- A row matches if it has a cell for each key that accepts the wanted value. -/
theorem rowMatches_eq_some_true_iff {cells : List Cell} :
    rowMatches cells keys = some true ↔
      ∀ key ∈ keys, ∃ cell, cells[key.1]? = some cell ∧ cell.accepts key.2 = true := by
  induction keys with
  | nil => simp [rowMatches]
  | cons key rest ih =>
      obtain ⟨index, value⟩ := key
      rw [List.forall_mem_cons, ← ih]
      cases found : cells[index]? with
      | none => simp [rowMatches, found]
      | some cell =>
          by_cases accepted : cell.accepts value = true <;> simp [rowMatches, found, accepted]

/-- Of rows for which it can be told whether they match, the first that does is found. -/
theorem findRow_eq {rows : List (List Cell)}
    (known : ∀ cells ∈ rows, (rowMatches cells keys).isSome = true) (index : Nat) :
    findRow keys index rows =
      .ok ((rows.findIdx? fun cells => rowMatches cells keys == some true).map (· + index)) := by
  induction rows generalizing index with
  | nil => rfl
  | cons cells rest ih =>
      obtain ⟨here, later⟩ := List.forall_mem_cons.1 known
      rw [findRow, List.findIdx?_cons]
      cases matched : rowMatches cells keys with
      | none => simp [matched] at here
      | some holds =>
          cases holds with
          | true => simp
          | false =>
              have shifted : (· + (index + 1)) = (· + index) ∘ (· + 1) := by
                funext place
                simp only [Function.comp_apply]
                omega
              dsimp only
              rw [ih later, if_neg (by decide), Option.map_map, shifted]

/-- A lookup of a column that does not exist names the first such column. -/
theorem lookup_of_absent (absent : table.firstAbsent? wanted = some column) :
    table.lookup wanted = .error (.missingColumn column) := by
  rw [lookup, resolveKeys_eq_error_iff.2 ⟨column, absent, rfl⟩]
  rfl

/-- A lookup whose keys can be had yields the first row that matches. -/
theorem lookup_eq (long : ∀ cells ∈ table.rows, cells.length = table.columns.length)
    (resolved : table.resolveKeys wanted = .ok keys) :
    table.lookup wanted =
      match table.rows.findIdx? fun cells => rowMatches cells keys == some true with
      | some row => .ok row
      | none => .error (.noMatch wanted) := by
  have known : ∀ cells ∈ table.rows, (rowMatches cells keys).isSome = true := by
    intro cells member
    refine isSome_rowMatches fun key isKey => ?_
    rw [long cells member]
    exact lt_of_resolveKeys resolved key isKey
  simp only [lookup, resolved, findRow_eq known, bind, Except.bind]
  cases table.rows.findIdx? fun cells => rowMatches cells keys == some true <;> rfl

/-! ## Rows that match -/

/-- The row exists, and in each wanted column its cell is a wildcard or equal to the wanted value. -/
structure Matches (table : DecisionTable) (wanted : List (String × Value)) (row : Nat) : Prop where
  inside : row < table.rows.length
  accepts : ∀ entry ∈ wanted, ∃ cell, table.HasCell row entry.1 cell ∧
    (cell = .wildcard ∨ ∃ value, cell = .literal value ∧ (value == entry.2) = true)

theorem matches_iff (distinct : table.columns.Nodup)
    (resolved : table.resolveKeys wanted = .ok keys) :
    table.Matches wanted row ↔
      ∃ cells, table.rows[row]? = some cells ∧ rowMatches cells keys = some true := by
  have inStep := resolveKeys_eq_ok_iff.1 resolved
  simp only [rowMatches_eq_some_true_iff]
  constructor
  · rintro ⟨inside, accepts⟩
    refine ⟨_, List.getElem?_eq_getElem inside, fun key isKey => ?_⟩
    obtain ⟨entry, isEntry, found, same⟩ := exists_left_of_mem inStep isKey
    obtain ⟨cell, ⟨cells, index, isRow, isColumn, isCell⟩, accepted⟩ := accepts entry isEntry
    obtain rfl := Option.some.inj ((List.getElem?_eq_getElem inside).symm.trans isRow)
    obtain rfl := place_unique distinct isColumn ((columnIndex?_eq_some_iff distinct).1 found)
    exact ⟨cell, isCell, same ▸ Cell.accepts_iff.2 accepted⟩
  · rintro ⟨cells, isRow, accepts⟩
    refine ⟨(List.getElem?_eq_some_iff.1 isRow).1, fun entry isEntry => ?_⟩
    obtain ⟨key, isKey, found, same⟩ := exists_right_of_mem inStep isEntry
    obtain ⟨cell, isCell, accepted⟩ := accepts key isKey
    have isColumn := (columnIndex?_eq_some_iff distinct).1 found
    exact ⟨cell, ⟨cells, key.1, isRow, isColumn, isCell⟩, Cell.accepts_iff.1 (same ▸ accepted)⟩

namespace WellShaped

/-- A lookup of existing columns yields the first row that matches, or there is none. -/
theorem lookup_of_known (shaped : table.WellShaped) (known : table.firstAbsent? wanted = none) :
    (∃ row, table.lookup wanted = .ok row ∧ IsLeast {row | table.Matches wanted row} row) ∨
      table.lookup wanted = .error (.noMatch wanted) ∧ ∀ row, ¬ table.Matches wanted row := by
  cases resolved : table.resolveKeys wanted with
  | error problem =>
      obtain ⟨column, absent, -⟩ := resolveKeys_eq_error_iff.1 resolved
      cases known.symm.trans absent
  | ok keys =>
      have rowsMatch : {row | table.Matches wanted row} =
          {row | ∃ cells, table.rows[row]? = some cells ∧
            (rowMatches cells keys == some true) = true} := by
        ext row
        simpa using matches_iff shaped.distinct resolved
      rw [lookup_eq shaped.rectangular resolved]
      cases found : table.rows.findIdx? fun cells => rowMatches cells keys == some true with
      | some row => exact .inl ⟨row, rfl, rowsMatch ▸ findIdx?_eq_some_iff_isLeast.1 found⟩
      | none =>
          refine .inr ⟨rfl, fun row isMatch => ?_⟩
          obtain ⟨cells, isRow, holds⟩ := rowsMatch.subset isMatch
          have fails := List.findIdx?_eq_none_iff.1 found cells (List.mem_of_getElem? isRow)
          cases holds.symm.trans fails

end WellShaped

/-! ## Tables that are loaded -/

/-- The table was made of columns and rows, or read from delimited text or from JSON rows. -/
inductive Loaded (table : DecisionTable) : Prop where
  | made (columns : List String) (rows : List (List Cell)) (isMade : make columns rows = .ok table)
  | delimited (delimiter : UInt8) (bytes : List UInt8) (read : ofCsv delimiter bytes = .ok table)
  | json (columns : Option (List String)) (rows : List Json) (read : ofJsonRows columns rows = .ok table)

theorem Loaded.wellShaped (loaded : table.Loaded) : table.WellShaped := by
  cases loaded with
  | made columns rows isMade => exact (make_eq_ok_iff.1 isMade).2
  | delimited delimiter bytes read => exact wellShaped_of_ofCsv read
  | json columns rows read => exact wellShaped_of_ofJsonRows read

/-- **A lookup finds the first matching row.** In a loaded table a lookup names the first wanted column
that does not exist. If all exist, it yields the least row whose cell in every wanted column is a
wildcard or equal to the wanted value, and it fails for want of a match exactly if there is no such
row. It never meets a row that is too short, and every column has a value in every row. -/
theorem lookup_of_loaded (loaded : table.Loaded) (wanted : List (String × Value)) :
    (∀ column, table.lookup wanted = .error (.missingColumn column) ↔
        table.firstAbsent? wanted = some column) ∧
      (∀ row, table.lookup wanted = .ok row ↔
        table.firstAbsent? wanted = none ∧ IsLeast {row | table.Matches wanted row} row) ∧
      (∀ sought, table.lookup wanted = .error (.noMatch sought) ↔
        sought = wanted ∧ table.firstAbsent? wanted = none ∧ ∀ row, ¬ table.Matches wanted row) ∧
      (∀ row, table.lookup wanted ≠ .error (.shortRow row)) ∧
      ∀ row < table.rows.length, ∀ column ∈ table.columns,
        ∃ cell, table.HasCell row column cell ∧ table.value? row column = some cell.value := by
  have shaped := loaded.wellShaped
  have values : ∀ row < table.rows.length, ∀ column ∈ table.columns,
      ∃ cell, table.HasCell row column cell ∧ table.value? row column = some cell.value := by
    intro row inside column known
    obtain ⟨cell, isCell⟩ := shaped.exists_cell inside known
    exact ⟨cell, isCell, shaped.value?_of_hasCell isCell⟩
  cases absent : table.firstAbsent? wanted with
  | some column =>
      have failed := lookup_of_absent absent
      refine ⟨?_, ?_, ?_, ?_, values⟩ <;> simp [failed]
  | none =>
      rcases shaped.lookup_of_known absent with ⟨row, found, least⟩ | ⟨failed, noMatch⟩
      · refine ⟨by simp [found], fun other => ?_, fun sought => ?_, by simp [found], values⟩
        · simp only [found, Except.ok.injEq, true_and]
          exact ⟨fun same => same ▸ least, fun otherLeast => least.unique otherLeast⟩
        · simp only [found, reduceCtorEq, false_iff]
          rintro ⟨-, -, noMatch⟩
          exact noMatch row least.1
      · refine ⟨by simp [failed], fun row => ?_, fun sought => ?_, by simp [failed], values⟩
        · simp only [failed, reduceCtorEq, true_and, false_iff]
          exact fun least => noMatch row least.1
        · simp [failed, noMatch, eq_comm]

/-- A table with a row for one level of a band, one for all other levels, and one for other bands. -/
def bands : DecisionTable where
  columns := ["band", "level", "note"]
  rows := [[.literal (.string "a"), .literal (.bool true), .literal (.string "top")],
    [.literal (.string "a"), .wildcard, .literal (.string "good")],
    [.wildcard, .wildcard, .literal (.string "rest")]]

/-- The row of the other levels is the first one that matches. -/
theorem lookup_of_loaded_bands :
    bands.Loaded ∧ bands.lookup [("level", .bool false), ("band", .string "a")] = .ok 1 ∧
      IsLeast {row | bands.Matches [("level", .bool false), ("band", .string "a")] row} 1 := by
  have loaded : bands.Loaded := .json (some bands.columns)
    [.array [.string "a", .bool true, .string "top"], .array [.string "a", .string "*", .string "good"],
      .array [.string "*", .string "*", .string "rest"]] rfl
  have found : bands.lookup [("level", .bool false), ("band", .string "a")] = .ok 1 := rfl
  obtain ⟨-, finds, -⟩ := lookup_of_loaded loaded [("level", .bool false), ("band", .string "a")]
  exact ⟨loaded, found, ((finds 1).1 found).2⟩

end DecisionTable

end DecisionFlow
