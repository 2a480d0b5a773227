import DecisionFlow.Decimal.Notation
import DecisionFlow.Json.Basic

/-!
# JSON text of a value

The compact form has no blanks. The indented form puts each item and member on a line of its own.
Only quotes, backslashes and control characters are escaped; every other character stands for
itself.
-/

set_option autoImplicit false

namespace DecisionFlow.Json

/-- JSON writes a number positionally from one hundred thousandth up to ten to the sixteenth, with
a point even in a whole number, and otherwise with a signed exponent; of two equally short decimals
the one with an even last digit is taken. -/
def numberNotation : Decimal.Notation where
  tie := .even
  positional leading := -5 ≤ leading && leading < 16
  wholeSuffix := ".0"

/-- The text of a double that was not written as a whole number. -/
def renderFloat (value : Float) : String :=
  Decimal.render numberNotation value

/-- How one character is written inside a JSON string. -/
def escapeChar (c : Char) : List Char :=
  match c with
  | '"' => ['\\', '"']
  | '\\' => ['\\', '\\']
  | '\x08' => ['\\', 'b']
  | '\x0c' => ['\\', 'f']
  | '\n' => ['\\', 'n']
  | '\r' => ['\\', 'r']
  | '\t' => ['\\', 't']
  | c =>
    if c.toNat < 0x20 then
      ['\\', 'u', '0', '0', Nat.digitChar (c.toNat / 16), Nat.digitChar (c.toNat % 16)]
    else [c]

/-- A text between quotes, with escapes. -/
def renderString (text : String) : String :=
  String.ofList ('"' :: text.toList.flatMap escapeChar ++ ['"'])

mutual

/-- The compact text of a value. -/
def render : Json → String
  | .null => "null"
  | .bool value => if value then "true" else "false"
  | .int value => toString value
  | .float value => renderFloat value
  | .string value => renderString value
  | .array items => "[" ++ String.intercalate "," (renderItems items) ++ "]"
  | .object members => "\x7b" ++ String.intercalate "," (renderMembers members) ++ "\x7d"

def renderItems : List Json → List String
  | [] => []
  | item :: rest => render item :: renderItems rest

def renderMembers : List (String × Json) → List String
  | [] => []
  | (key, value) :: rest => (renderString key ++ ":" ++ render value) :: renderMembers rest

end

/-- Brackets around parts that stand on lines of their own. Nothing stands between the brackets
when there are no parts. -/
def enclose (opening closing indent : String) (parts : List String) : String :=
  if parts.isEmpty then opening ++ closing
  else
    let inner := "\n" ++ indent ++ "  "
    opening ++ inner ++ String.intercalate ("," ++ inner) parts ++ "\n" ++ indent ++ closing

mutual

/-- The indented text of a value; `indent` is the indentation of the line it starts on. -/
def renderIndented (indent : String) : Json → String
  | .array items => enclose "[" "]" indent (renderItemLines (indent ++ "  ") items)
  | .object members => enclose "\x7b" "\x7d" indent (renderMemberLines (indent ++ "  ") members)
  | .null => "null"
  | .bool value => if value then "true" else "false"
  | .int value => toString value
  | .float value => renderFloat value
  | .string value => renderString value

def renderItemLines (indent : String) : List Json → List String
  | [] => []
  | item :: rest => renderIndented indent item :: renderItemLines indent rest

def renderMemberLines (indent : String) : List (String × Json) → List String
  | [] => []
  | (key, value) :: rest =>
    (renderString key ++ ": " ++ renderIndented indent value) :: renderMemberLines indent rest

end

end DecisionFlow.Json
