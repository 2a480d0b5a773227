import DecisionFlow.Proofs.Table.Json
import Mathlib.Data.List.Nodup
import Mathlib.Data.List.Perm.Subperm

/-!
# Which JSON rows make a table

Rows are documented in two layouts: below given columns they are arrays with a scalar for each
column, and without columns they are objects with the keys of the first row. The reader takes a
table in either layout, but it looks at the shape of each row by itself, so it also takes a row in
the other layout if it fits the columns. What it accepts are the documented tables and the mixed
ones, and nothing else (`DecisionTable.accepts_documented_iff`).
-/

set_option autoImplicit false

namespace DecisionFlow

/-- The value is neither an array nor an object. -/
def Json.IsScalar : Json → Prop
  | .array _ | .object _ => False
  | .null | .bool _ | .int _ | .float _ | .string _ => True

/-- Exactly the scalars are cells. -/
theorem Cell.exists_ofJson?_iff {json : Json} :
    (∃ cell, ofJson? json = some cell) ↔ json.IsScalar := by
  cases json with
  | array _ | object _ =>
      constructor
      · rintro ⟨_, ⟨⟩⟩
      · exact False.elim
  | null | bool _ | int _ | float _ | string _ => exact ⟨fun _ => trivial, fun _ => ⟨_, rfl⟩⟩

namespace DecisionTable

variable {columns : List String}

/-! ## Rows -/

/-- An array with a scalar for each column. -/
def IsArrayRow (columns : List String) (json : Json) : Prop :=
  ∃ values, json = .array values ∧ values.length = columns.length ∧ ∀ value ∈ values, value.IsScalar

/-- An object, in which each key occurs once, whose keys are the columns and whose values are
scalars. -/
def IsObjectRow (columns : List String) (json : Json) : Prop :=
  ∃ members, json = .object members ∧ (members.map Prod.fst).Nodup ∧
    (∀ name, name ∈ members.map Prod.fst ↔ name ∈ columns) ∧ ∀ member ∈ members, member.2.IsScalar

/-- A row in one of the layouts. -/
def IsRow (columns : List String) (json : Json) : Prop :=
  IsArrayRow columns json ∨ IsObjectRow columns json

theorem IsArrayRow.not_isObjectRow {json : Json} (isArray : IsArrayRow columns json) :
    ¬ IsObjectRow columns json := by
  rintro ⟨_, rfl, -⟩
  obtain ⟨_, ⟨⟩, -⟩ := isArray

theorem isObjectRow_iff (distinct : columns.Nodup) {members : List (String × Json)} :
    IsObjectRow columns (.object members) ↔ members.length = columns.length ∧
      ∀ column ∈ columns, ∃ value, Entries.find? members column = some value ∧ value.IsScalar := by
  constructor
  · rintro ⟨_, ⟨⟩, once, sameNames, scalars⟩
    have perm := (List.perm_ext_iff_of_nodup once distinct).2 sameNames
    refine ⟨by simpa using perm.length_eq, fun column isColumn => ?_⟩
    have present := Entries.mem_keys_iff.1 ((sameNames column).2 isColumn)
    obtain ⟨value, found⟩ := Option.isSome_iff_exists.1 present
    exact ⟨value, found, scalars _ (Entries.mem_of_find? found)⟩
  · rintro ⟨sameLength, found⟩
    have subset : columns ⊆ members.map Prod.fst := by
      intro column isColumn
      obtain ⟨value, isFound, -⟩ := found column isColumn
      exact Entries.mem_keys_iff.2 (Option.isSome_iff_exists.2 ⟨value, isFound⟩)
    -- As many keys as columns, and all columns among them: no key is left over or repeated.
    have perm : columns.Perm (members.map Prod.fst) :=
      (List.subperm_of_subset distinct subset).perm_of_length_le (by simp [sameLength])
    have once := perm.nodup_iff.1 distinct
    refine ⟨members, rfl, once, fun name => perm.mem_iff.symm, fun member isMember => ?_⟩
    have isColumn := perm.mem_iff.2 (List.mem_map_of_mem isMember)
    obtain ⟨value, isFound, scalar⟩ := found _ isColumn
    have same := List.inj_on_of_nodup_map once isMember (Entries.mem_of_find? isFound) rfl
    rwa [same]

/-- Exactly the rows in one of the layouts have cells. -/
theorem exists_rowCells_iff (distinct : columns.Nodup) {json : Json} :
    (∃ cells, RowCells columns json cells) ↔ IsRow columns json := by
  constructor
  · rintro ⟨cells, ⟨fits, inStep⟩ | ⟨fits, inStep⟩⟩
    · refine .inl ⟨_, rfl, fits, fun value isValue => ?_⟩
      exact Cell.exists_ofJson?_iff.1 (exists_inStep_iff.1 ⟨_, inStep⟩ value isValue)
    · refine .inr ((isObjectRow_iff distinct).2 ⟨fits, fun column isColumn => ?_⟩)
      obtain ⟨cell, value, found, isCell⟩ := exists_inStep_iff.1 ⟨_, inStep⟩ column isColumn
      exact ⟨value, found, Cell.exists_ofJson?_iff.1 ⟨cell, isCell⟩⟩
  · rintro (⟨values, rfl, fits, scalars⟩ | isObject)
    · obtain ⟨cells, inStep⟩ := exists_inStep_iff.2 fun value isValue =>
        Cell.exists_ofJson?_iff.2 (scalars value isValue)
      exact ⟨cells, .array fits inStep⟩
    · obtain ⟨members, rfl⟩ : ∃ members, json = .object members :=
        isObject.imp fun _ shape => shape.1
      obtain ⟨fits, scalars⟩ := (isObjectRow_iff distinct).1 isObject
      have haveCells : ∀ column ∈ columns, ∃ cell value,
          Entries.find? members column = some value ∧ Cell.ofJson? value = some cell := by
        intro column isColumn
        obtain ⟨value, found, scalar⟩ := scalars column isColumn
        obtain ⟨cell, isCell⟩ := Cell.exists_ofJson?_iff.2 scalar
        exact ⟨cell, value, found, isCell⟩
      obtain ⟨cells, inStep⟩ := exists_inStep_iff.2 haveCells
      exact ⟨cells, .object fits inStep⟩

/-! ## Tables -/

/-- There are columns with different names, and each row fits them in one of the layouts. -/
structure Fits (columns : List String) (rows : List Json) : Prop where
  nonempty : columns ≠ []
  distinct : columns.Nodup
  rows : ∀ json ∈ rows, IsRow columns json

theorem isOk_make_iff {rows : List Json} :
    (cellsOfRows columns 0 rows >>= make columns).isOk = true ↔ Fits columns rows := by
  rw [isOk_iff]
  constructor
  · rintro ⟨table, made⟩
    obtain ⟨cells, read, made⟩ := bind_eq_ok_iff.1 made
    obtain ⟨rfl, shaped⟩ := make_eq_ok_iff.1 made
    have inStep := (cellsOfRows_eq_ok_iff 0).1 read
    refine ⟨shaped.nonempty, shaped.distinct, fun json isJson => ?_⟩
    exact (exists_rowCells_iff shaped.distinct).1 (exists_inStep_iff.1 ⟨_, inStep⟩ json isJson)
  · rintro ⟨nonempty, distinct, areRows⟩
    obtain ⟨cells, inStep⟩ := exists_inStep_iff.2 fun json isJson =>
      (exists_rowCells_iff distinct).2 (areRows json isJson)
    have shaped : WellShaped ⟨columns, cells⟩ := by
      refine ⟨nonempty, distinct, fun row isRow => ?_⟩
      obtain ⟨json, -, areCells⟩ := exists_left_of_mem inStep isRow
      exact areCells.length_eq
    have read := (cellsOfRows_eq_ok_iff 0).2 inStep
    exact ⟨_, bind_eq_ok_iff.2 ⟨cells, read, make_eq_ok_iff.2 ⟨rfl, shaped⟩⟩⟩

/-- The documented tables: given columns, with arrays of as many scalars as there are columns below
them, or objects with the keys of the first of them, which has some. -/
def Documented : Option (List String) → List Json → Prop
  | some columns, rows => columns ≠ [] ∧ columns.Nodup ∧ ∀ json ∈ rows, IsArrayRow columns json
  | none, rows => ∃ members rest, rows = .object members :: rest ∧ members ≠ [] ∧
      ∀ json ∈ rows, IsObjectRow (members.map Prod.fst) json

/-- The tables whose rows all fit their columns, but not all in the documented layout: an object
stands below given columns, or an array below an object that names the columns. -/
def Mixed : Option (List String) → List Json → Prop
  | some columns, rows => Fits columns rows ∧ ∃ json ∈ rows, IsObjectRow columns json
  | none, rows => ∃ members rest, rows = .object members :: rest ∧
      Fits (members.map Prod.fst) rows ∧ ∃ json ∈ rest, IsArrayRow (members.map Prod.fst) json

theorem fits_given_iff {rows : List Json} :
    Fits columns rows ↔ Documented (some columns) rows ∨ Mixed (some columns) rows := by
  constructor
  · intro fits
    by_cases mixed : ∃ json ∈ rows, IsObjectRow columns json
    · exact .inr ⟨fits, mixed⟩
    · refine .inl ⟨fits.nonempty, fits.distinct, fun json isRow => ?_⟩
      exact (fits.rows json isRow).resolve_right fun isObject => mixed ⟨json, isRow, isObject⟩
  · rintro (⟨nonempty, distinct, areArrays⟩ | ⟨fits, -⟩)
    · exact ⟨nonempty, distinct, fun json isRow => .inl (areArrays json isRow)⟩
    · exact fits

theorem fits_first_iff {members : List (String × Json)} {rest : List Json} :
    Fits (members.map Prod.fst) (.object members :: rest) ↔
      Documented none (.object members :: rest) ∨ Mixed none (.object members :: rest) := by
  constructor
  · intro fits
    obtain ⟨first, others⟩ := List.forall_mem_cons.1 fits.rows
    by_cases mixed : ∃ json ∈ rest, IsArrayRow (members.map Prod.fst) json
    · exact .inr ⟨members, rest, rfl, fits, mixed⟩
    · refine .inl ⟨members, rest, rfl, fun empty => fits.nonempty (by rw [empty, List.map_nil]), ?_⟩
      refine List.forall_mem_cons.2 ⟨first.resolve_left ?_, fun json isRow => ?_⟩
      · rintro ⟨_, ⟨⟩, -⟩
      · exact (others json isRow).resolve_left fun isArray => mixed ⟨json, isRow, isArray⟩
  · rintro (⟨_, _, ⟨⟩, present, areObjects⟩ | ⟨_, _, ⟨⟩, fits, -⟩)
    · obtain ⟨_, ⟨⟩, once, -⟩ := areObjects _ List.mem_cons_self
      exact ⟨fun empty => present (List.map_eq_nil_iff.1 empty), once,
        fun json isRow => .inr (areObjects json isRow)⟩
    · exact fits

/-- Exactly the documented and the mixed tables are accepted. -/
theorem isOk_ofJsonRows_iff {given : Option (List String)} {rows : List Json} :
    (ofJsonRows given rows).isOk = true ↔ Documented given rows ∨ Mixed given rows := by
  cases given with
  | some columns => exact isOk_make_iff.trans fits_given_iff
  | none =>
      cases rows with
      | nil =>
          constructor
          · rintro ⟨⟩
          · rintro (⟨_, _, ⟨⟩, -⟩ | ⟨_, _, ⟨⟩, -⟩)
      | cons first rest =>
          cases first with
          | object members => exact isOk_make_iff.trans fits_first_iff
          | null | bool _ | int _ | float _ | string _ | array _ =>
              constructor
              · rintro ⟨⟩
              · rintro (⟨_, _, ⟨⟩, -⟩ | ⟨_, _, ⟨⟩, -⟩)

/-- No mixed table is documented. -/
theorem Mixed.not_documented {given : Option (List String)} {rows : List Json}
    (mixed : Mixed given rows) : ¬ Documented given rows := by
  cases given with
  | some columns =>
      rintro ⟨-, -, areArrays⟩
      obtain ⟨-, json, isRow, isObject⟩ := mixed
      exact (areArrays json isRow).not_isObjectRow isObject
  | none =>
      rintro ⟨_, _, rfl, -, areObjects⟩
      obtain ⟨_, _, ⟨⟩, -, json, isRow, isArray⟩ := mixed
      exact isArray.not_isObjectRow (areObjects json (List.mem_cons_of_mem _ isRow))

/-- **Which JSON rows make a table.** Every documented table is accepted, and besides them the mixed
tables and no others. So what is accepted is what is documented, except where rows are mixed. -/
theorem accepts_documented_iff (given : Option (List String)) (rows : List Json) :
    ((ofJsonRows given rows).isOk = true ↔ Documented given rows ∨ Mixed given rows) ∧
      (((ofJsonRows given rows).isOk = true ↔ Documented given rows) ↔ ¬ Mixed given rows) := by
  refine ⟨isOk_ofJsonRows_iff, ?_⟩
  rw [isOk_ofJsonRows_iff]
  constructor
  · intro same mixed
    exact mixed.not_documented (same.1 (.inr mixed))
  · intro notMixed
    exact or_iff_left notMixed

/-- An object below columns is taken for a row. So is an array below an object, and its cells go by
the order of the keys: what is listed first is the price. -/
theorem exists_mixed_table :
    ((ofJsonRows (some ["size", "price"])
          [.object [("price", .string "2.50"), ("size", .string "S")]]).isOk = true ∧
        ¬ Documented (some ["size", "price"])
          [.object [("price", .string "2.50"), ("size", .string "S")]]) ∧
      (∃ table, ofJsonRows none [.object [("price", .string "2.50"), ("size", .string "S")],
            .array [.string "M", .string "4.50"]] = .ok table ∧
          table.value? 1 "price" = some (.string "M")) ∧
        ¬ Documented none [.object [("price", .string "2.50"), ("size", .string "S")],
          .array [.string "M", .string "4.50"]] := by
  refine ⟨⟨rfl, ?_⟩, ⟨_, rfl, rfl⟩, ?_⟩
  · rintro ⟨-, -, areArrays⟩
    obtain ⟨_, ⟨⟩, -⟩ := areArrays _ List.mem_cons_self
  · rintro ⟨_, _, ⟨⟩, -, areObjects⟩
    obtain ⟨_, ⟨⟩, -⟩ := areObjects _ (List.mem_cons_of_mem _ List.mem_cons_self)

end DecisionTable

end DecisionFlow
