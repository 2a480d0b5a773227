import DecisionFlow.Proofs.Evaluation.Walk
import DecisionFlow.Proofs.Graph.Intact
import DecisionFlow.Proofs.Table.Lookup

/-!
# Evaluations that stay in range

An evaluation goes out of range if it comes to a position where there is no node, or if a lookup needs
a cell that its row does not have. In a table whose rows are as long as its header every column has a
cell in every row, and an intact graph leads from nodes to nodes only. So no evaluation of an intact
graph goes out of range, nor one of the graphs that it calls (`IntactWithin.staysInRange`).
-/

set_option autoImplicit false

namespace DecisionFlow

/-! ## Lookups -/

/-- The lookup did not fail at a row that is too short. -/
def LookupError.InRange (cause : LookupError) : Prop :=
  ∀ row, cause ≠ .shortRow row

namespace DecisionTable

variable {table : DecisionTable}

theorem lookup_failsInRange (rectangular : table.Rectangular) (wanted : List (String × Value)) :
    FailsOnlyWith LookupError.InRange (table.lookup wanted) := by
  cases resolved : table.resolveKeys wanted with
  | error problem =>
      obtain ⟨column, absent, -⟩ := resolveKeys_eq_error_iff.1 resolved
      rw [lookup_of_absent absent]
      exact .error (by rintro row ⟨⟩)
  | ok keys =>
      rw [lookup_eq rectangular resolved]
      split
      · exact .ok _
      · exact .error (by rintro row ⟨⟩)

end DecisionTable

namespace TableLookup

variable {lookup : TableLookup}

theorem cellValue_failsInRange (rectangular : lookup.table.Rectangular) (row : Nat)
    (column : String) : FailsOnlyWith LookupError.InRange (lookup.cellValue row column) := by
  unfold cellValue
  split
  next index cells found isRow =>
    have inside : index < cells.length := by
      rw [rectangular cells (List.mem_of_getElem? isRow)]
      exact DecisionTable.columnIndex?_lt found
    rw [List.getElem?_eq_getElem inside]
    exact .ok _
  next => exact .ok _

theorem columnValues_failsInRange (rectangular : lookup.table.Rectangular) (node : String) (row : Nat)
    (columns : List String) :
    FailsOnlyWith LookupError.InRange (lookup.columnValues node row columns) := by
  induction columns with
  | nil => exact .ok _
  | cons column rest ih =>
      exact (cellValue_failsInRange rectangular row column).bind fun value =>
        ih.bind fun values => .ok _

theorem step_failsInRange (rectangular : lookup.table.Rectangular) (node : String)
    (wanted : List (String × Value)) :
    FailsOnlyWith LookupError.InRange (lookup.step node wanted) :=
  (lookup.table.lookup_failsInRange rectangular wanted).bind fun row =>
    (columnValues_failsInRange rectangular node row lookup.extraTargets).bind fun _ =>
      (cellValue_failsInRange rectangular row lookup.target).bind fun _ => .ok _

end TableLookup

/-! ## Evaluations -/

/-- Below all calls, an evaluation came to a position without a node, or to a row without a cell that
was needed. -/
def EvaluationError.OutOfRange (problem : EvaluationError) : Prop :=
  (∃ position, problem.root = .noNode position) ∨
    ∃ node row, problem.root = .lookup node (.shortRow row)

theorem EvaluationError.Ordinary.not_outOfRange {problem : EvaluationError}
    (ordinary : Ordinary LookupError.InRange problem) : ¬ problem.OutOfRange := by
  rcases ordinary.root_eq with ⟨_, _, _, isRoot⟩ | ⟨node, cause, isRoot, inRange⟩
  · simp [OutOfRange, isRoot]
  · rintro (⟨position, atPosition⟩ | ⟨other, row, short⟩)
    · cases isRoot.symm.trans atPosition
    · cases isRoot.symm.trans short
      exact inRange row rfl

namespace Graph

/-- No evaluation of the graph goes out of range. -/
def StaysInRange (graph : Graph) : Prop :=
  ∀ record problem, graph.evaluate record = .error problem → ¬ problem.OutOfRange

theorem Intact.failsAsAllowed {graph : Graph} (intact : Intact graph) :
    ∀ node ∈ graph.nodes, node.kind.FailsAsAllowed LookupError.InRange :=
  fun node member lookup isLookup node' wanted =>
    TableLookup.step_failsInRange (intact.rectangular node member lookup isLookup) node' wanted

theorem IntactWithin.run_failsOrdinarily {graph : Graph} (intact : IntactWithin graph)
    (record : Record) : FailsOrdinarily LookupError.InRange (graph.run record).outcome := by
  induction graph using induction_on_calls generalizing record with
  | step graph ih =>
      refine intact.own.navigable.run_failsOrdinarily intact.own.failsAsAllowed ?_ record
      rintro ⟨id, kind⟩ member callee calls inner
      obtain ⟨call, rfl, rfl⟩ := NodeKind.callee?_eq_some_iff.1 calls
      exact ih call ⟨id, member⟩ (intact.target ⟨id, member⟩) inner

/-- **Evaluations of intact graphs stay in range.** -/
theorem IntactWithin.staysInRange {graph : Graph} (intact : IntactWithin graph) :
    graph.StaysInRange :=
  fun record problem failed => (intact.run_failsOrdinarily record problem failed).not_outOfRange

end Graph

end DecisionFlow
