import DecisionFlow.Text.CaseContext
import DecisionFlow.Text.LowerCase
import DecisionFlow.Text.UpperCase

/-!
# Changing the case of a text

Each character is replaced by its full case mapping, which may have several characters. One
character looks at its surroundings: a capital sigma becomes the final small sigma when a cased
letter comes before it and none after it, where characters that case ignores are looked past.
-/

set_option autoImplicit false

namespace DecisionFlow.Text

/-- The first character that case does not ignore is a cased letter. -/
def meetsCased (chars : List Char) : Bool :=
  match chars.dropWhile fun c => caseIgnorableRanges.contains c.toNat with
  | c :: _ => casedRanges.contains c.toNat
  | [] => false

/-- A sigma stands at the end of a word. `before` lists the characters before it, the nearest
first. -/
def endsWord (before after : List Char) : Bool :=
  meetsCased before && !meetsCased after

/-- Lower case of the remaining characters, given the ones already passed, the nearest first. -/
def lowerChars (before : List Char) : List Char → List Char
  | [] => []
  | c :: rest =>
    let lowered :=
      if c = 'Σ' then [if endsWord before rest then 'ς' else 'σ']
      else (lowerCase c.toNat).map Char.ofNat
    lowered ++ lowerChars (c :: before) rest

/-- The text in lower case. -/
def lower (text : String) : String :=
  String.ofList (lowerChars [] text.toList)

/-- The text in upper case. -/
def upper (text : String) : String :=
  String.ofList (text.toList.flatMap fun c => (upperCase c.toNat).map Char.ofNat)

end DecisionFlow.Text
