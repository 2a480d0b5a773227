/-!
# Sets and maps of code points

Properties of characters are given by tables. A set of code points is a list of closed
intervals; a map that moves code points is a list of runs, each of which moves evenly spaced code
points by one common distance. Both are kept in increasing order, so that a table can be checked
against its source at a glance, and both are read by one linear scan.
-/

set_option autoImplicit false

namespace DecisionFlow.Text

/-- A set of code points, as closed intervals in increasing order. -/
abbrev CodeRanges := List (Nat × Nat)

/-- A code point belongs to the set when one of the intervals holds it. -/
def CodeRanges.contains (ranges : CodeRanges) (code : Nat) : Bool :=
  ranges.any fun range => range.1 ≤ code && code ≤ range.2

/-- Evenly spaced code points that are all moved by the same distance. -/
structure CodeRun where
  first : Nat
  last : Nat
  stride : Nat
  distance : Int

/-- A code point belongs to a run when it lies between its ends, on its grid. -/
def CodeRun.covers (run : CodeRun) (code : Nat) : Bool :=
  run.first ≤ code && code ≤ run.last && (code - run.first) % run.stride == 0

/-- The first run that covers a code point moves it; all other code points stay. -/
def CodeRun.move (runs : List CodeRun) (code : Nat) : Nat :=
  match runs.find? (·.covers code) with
  | some run => (code + run.distance).toNat
  | none => code

end DecisionFlow.Text
