import DecisionFlow.Decimal.Reading
import DecisionFlow.Text.Blank

/-!
# Versions and version requests

A version is any text. Versions are ordered component by component, where points separate
components: two numeric components compare as numbers and any other pair as texts, and a version
that runs out of components comes first. A request names one version or accepts every version.
-/

set_option autoImplicit false

namespace DecisionFlow

/-! ## Order -/

/-- The parts of a text between its points. There is always at least one. -/
def splitAtPoints : List Char → List (List Char)
  | [] => [[]]
  | c :: rest =>
    if c = '.' then [] :: splitAtPoints rest
    else
      match splitAtPoints rest with
      | part :: parts => (c :: part) :: parts
      | [] => [[c]]

/-- The number that a component stands for: digits after an optional plus sign, below two to the
power sixty-four. -/
def componentNumber? (component : List Char) : Option Nat :=
  let digits := match component with
    | '+' :: rest => rest
    | chars => chars
  if digits.isEmpty || !digits.all Char.isDigit then none
  else
    let value := Decimal.natOfDigits digits
    if value < Decimal.wordBound then some value else none

/-- The order of two texts by their characters' code points. -/
def compareChars (left right : List Char) : Ordering :=
  if left < right then .lt else if left = right then .eq else .gt

/-- The order of two version components. -/
def compareComponents (left right : List Char) : Ordering :=
  match componentNumber? left, componentNumber? right with
  | some leftNumber, some rightNumber => compare leftNumber rightNumber
  | _, _ => compareChars left right

/-- The order of two lists of components: the first unequal pair decides. -/
def compareComponentLists : List (List Char) → List (List Char) → Ordering
  | [], [] => .eq
  | _ :: _, [] => .gt
  | [], _ :: _ => .lt
  | left :: lefts, right :: rights =>
    match compareComponents left right with
    | .eq => compareComponentLists lefts rights
    | decided => decided

/-- The order of two versions. -/
def compareVersions (left right : String) : Ordering :=
  compareComponentLists (splitAtPoints left.toList) (splitAtPoints right.toList)

/-! ## Requests -/

/-- The version that a sub-flow call asks for. -/
inductive VersionRequest where
  | exact (version : String)
  | any
  deriving DecidableEq, Inhabited

namespace VersionRequest

/-- How a request for any version is written. -/
def anyText : String := "*"

/-- Reads a request. Blanks around it do not count; an absent or empty request accepts every
version. -/
def ofText (text : Option String) : VersionRequest :=
  match text.map Text.trim with
  | none => .any
  | some version => if version = "" ∨ version = anyText then .any else .exact version

/-- The request accepts a version. -/
def accepts (request : VersionRequest) (version : String) : Bool :=
  match request with
  | .exact wanted => wanted == version
  | .any => true

/-- How a request is written. -/
def text : VersionRequest → String
  | .exact version => version
  | .any => anyText

end VersionRequest

end DecisionFlow
