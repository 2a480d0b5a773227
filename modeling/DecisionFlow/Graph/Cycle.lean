import DecisionFlow.Graph.Basic

/-!
# Searching for a cycle

A depth-first search visits every position. The path from its root to the position that it explores
is kept on a stack, the innermost position first, each with the positions to which edges have still
to be followed. Marks tell the positions on the stack from those that were not visited yet and from
those below which everything was explored. An edge back to the stack closes a cycle.
-/

set_option autoImplicit false

namespace DecisionFlow.Graph

/-- How far the search has come with a position. -/
inductive Mark where
  | unvisited
  /-- The position is on the stack. -/
  | inProgress
  /-- Everything below the position was explored. -/
  | done
  deriving DecidableEq

/-- A position on the stack, and where the edges lead that have still to be followed from it. -/
structure Frame where
  position : Nat
  pending : List Nat

/-- What the search knows: a mark for each position, and the stack, innermost first. -/
structure Search where
  marks : List Mark
  stack : List Frame

namespace Search

/-- The search before it has visited any of its positions. -/
def initial (count : Nat) : Search := ⟨List.replicate count .unvisited, []⟩

/-- The mark of a position. -/
def mark (search : Search) (position : Nat) : Mark :=
  search.marks[position]?.getD .done

/-- Visits a position. Its edges will be followed from the last to the first. -/
def enter (successors : List Successors) (search : Search) (position : Nat) : Search where
  marks := search.marks.set position .inProgress
  stack := ⟨position, (targets successors position).reverse⟩ :: search.stack

/-- The cycle that an edge back to `position` closes: the path on the stack, from the outermost
position on, is cut off where `position` stands, and `position` comes once more at its end. -/
def closedPath (stack : List Frame) (position : Nat) : List Nat :=
  let path := (stack.map (·.position)).reverse
  path.drop ((path.findIdx? (· == position)).getD 0) ++ [position]

/-- One turn of the search: the next edge of the innermost position is followed, or the position is
left if it has no more edges. An edge back to the stack ends the search. -/
def turn (successors : List Successors) (search : Search) : Except (List Nat) Search :=
  match search.stack with
  | [] => .ok search
  | ⟨current, []⟩ :: below => .ok ⟨search.marks.set current .done, below⟩
  | ⟨current, next :: pending⟩ :: below =>
    match search.mark next with
    | .unvisited => .ok (enter successors ⟨search.marks, ⟨current, pending⟩ :: below⟩ next)
    | .inProgress => .error (closedPath search.stack next)
    | .done => .ok ⟨search.marks, ⟨current, pending⟩ :: below⟩

/-! ## The search ends

An edge is followed once, and a position is visited once and has at most three edges. -/

/-- The turns that a stack takes by itself: one for each position and for each edge that has still to
be followed. -/
def stackTurns : List Frame → Nat
  | [] => 0
  | frame :: below => frame.pending.length + 1 + stackTurns below

/-- The turns that are left at most: those of the stack, and five for each position that was not
visited. -/
def weight (search : Search) : Nat :=
  5 * search.marks.count .unvisited + stackTurns search.stack

/-- A position that is marked as not visited has a mark in the list. -/
theorem getElem?_of_mark_eq_unvisited {search : Search} {position : Nat}
    (unvisited : search.mark position = .unvisited) :
    search.marks[position]? = some .unvisited := by
  unfold mark at unvisited
  cases found : search.marks[position]? with
  | none => simp [found] at unvisited
  | some mark => simpa [found] using unvisited

/-- Marking a position with anything but `unvisited` leaves no more positions to visit. -/
theorem count_unvisited_set_le (marks : List Mark) (position : Nat) {mark : Mark}
    (visited : mark ≠ .unvisited) :
    (marks.set position mark).count .unvisited ≤ marks.count .unvisited := by
  by_cases inside : position < marks.length
  · rw [List.count_set inside]
    simp [visited]
  · exact Nat.le_of_eq (by rw [List.set_eq_of_length_le (by omega)])

/-- Visiting a position leaves one position less to visit. -/
theorem count_unvisited_set_lt {marks : List Mark} {position : Nat}
    (unvisited : marks[position]? = some .unvisited) :
    (marks.set position .inProgress).count .unvisited < marks.count .unvisited := by
  obtain ⟨inside, here⟩ := List.getElem?_eq_some_iff.1 unvisited
  have some : 0 < marks.count .unvisited :=
    List.count_pos_iff.2 (here ▸ List.getElem_mem inside)
  rw [List.count_set inside, here]
  simp only [BEq.rfl, ↓reduceIte, reduceCtorEq, beq_iff_eq]
  omega

theorem length_targets_le (successors : List Successors) (position : Nat) :
    (targets successors position).length ≤ 3 := by
  unfold targets
  cases successors[position]? with
  | none => simp
  | some outgoing =>
      obtain ⟨next, thenBranch, elseBranch⟩ := outgoing
      cases next <;> cases thenBranch <;> cases elseBranch <;> simp [Successors.targets]

/-- Every turn makes progress. -/
theorem weight_turn_lt {successors : List Successors} {search after : Search}
    (busy : search.stack ≠ []) (taken : search.turn successors = .ok after) :
    after.weight < search.weight := by
  obtain ⟨marks, stack⟩ := search
  match stack, busy with
  | ⟨current, []⟩ :: below, _ =>
      obtain rfl : _ = after := by simpa [turn] using taken
      have fewer := count_unvisited_set_le marks current (by simp : Mark.done ≠ .unvisited)
      simp only [weight, stackTurns, List.length_nil]
      omega
  | ⟨current, next :: pending⟩ :: below, _ =>
      simp only [turn] at taken
      cases marked : mark ⟨marks, ⟨current, next :: pending⟩ :: below⟩ next with
      | unvisited =>
          obtain rfl : _ = after := by simpa [marked] using taken
          have fewer := count_unvisited_set_lt (getElem?_of_mark_eq_unvisited marked)
          have few := length_targets_le successors next
          simp only [weight, stackTurns, enter, List.length_cons, List.length_reverse] at fewer ⊢
          omega
      | inProgress => simp [marked] at taken
      | done =>
          obtain rfl : _ = after := by simpa [marked] using taken
          simp [weight, stackTurns]

/-! ## Whole searches -/

/-- Takes turns until the stack is empty. -/
def finish (successors : List Successors) (search : Search) : Except (List Nat) Search :=
  if _ : search.stack ≠ [] then
    match _ : search.turn successors with
    | .error cycle => .error cycle
    | .ok after => finish successors after
  else .ok search
termination_by search.weight
decreasing_by exact weight_turn_lt ‹_› ‹_›

/-- Explores everything below a position, unless it was visited before. -/
def explore (successors : List Successors) (search : Search) (root : Nat) :
    Except (List Nat) Search :=
  if search.mark root = .unvisited then finish successors (enter successors search root)
  else .ok search

end Search

/-- A cycle among the positions, if there is one. -/
def findCycle? (successors : List Successors) : Option (List Nat) :=
  match (List.range successors.length).foldlM (Search.explore successors)
      (Search.initial successors.length) with
  | .ok _ => none
  | .error cycle => some cycle

end DecisionFlow.Graph
