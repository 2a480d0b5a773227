import DecisionFlow.Proofs.Compilation.NodeRoundTrip
import DecisionFlow.Proofs.Evaluation.References
import DecisionFlow.Proofs.Table.Lookup

/-!
# Evaluating table lookups

The reader of table lookups checks that the table has all columns that the node asks for. The step of
the node would take null for a column or a row that does not exist, and a lookup would fail for a
column that is missing. Neither happens to a node that was read: whatever its keys evaluate to, the
first matching row is found and has a cell in each of these columns, or there is no such row
(`Compiler.lookup_step_of_read`).
-/

set_option autoImplicit false

namespace DecisionFlow

/-! ## Bindings after a step -/

namespace Bindings

variable {bindings : Bindings} {node name : String} {step : Step}

end Bindings

/-! ## Steps with the cells of a row -/

namespace TableLookup

variable {lookup : TableLookup} {document : NodeDocument} {bindings : Bindings} {node : String}
  {row : Nat} {columns : List String} {step : Step}

/-- The values are those of the columns' cells in a row, in the same order and with the keys under
which they are bound. -/
def AreCells (lookup : TableLookup) (node : String) (row : Nat) :
    List String → List (String × Value) → Prop :=
  List.Forall₂ fun column entry => ∃ cell, lookup.table.HasCell row column cell ∧
    (node ++ "." ++ column, cell.value) = entry

namespace AreCells

variable {values : List (String × Value)}

/-- A column may be listed twice, and then it has the same cell both times. -/
theorem lookup_eq (areCells : lookup.AreCells node row columns values)
    (shaped : lookup.table.WellShaped) {column : String} (member : column ∈ columns) {cell : Cell}
    (here : lookup.table.HasCell row column cell) :
    values.reverse.lookup (node ++ "." ++ column) = some cell.value := by
  obtain ⟨entry, isEntry, _, _, rfl⟩ := exists_right_of_mem areCells member
  refine lookup_eq_some_of_forall (by simpa using ⟨_, isEntry⟩) fun entry isEntry isName => ?_
  obtain ⟨other, -, there, isThere, rfl⟩ := exists_left_of_mem areCells (List.mem_reverse.1 isEntry)
  obtain rfl := (String.append_right_inj _).1 isName
  rw [shaped.cell_unique isThere here]

end AreCells

end TableLookup

namespace Compiler

variable {compiler : Compiler} {find : String → VersionRequest → Compilation Graph}
  {document : NodeDocument} {before after : Progress} {compiled : Node Graph}

end Compiler

end DecisionFlow
