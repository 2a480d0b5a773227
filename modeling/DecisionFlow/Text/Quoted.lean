import DecisionFlow.Text.Visible

/-!
# Quoted text

A text is shown between double quotes. Quotes and backslashes are escaped, the common control
characters have letters of their own, and every other character that is not visible on its own is
given by its code point.
-/

set_option autoImplicit false

namespace DecisionFlow.Text

/-- How one character is written inside quotes. -/
def quoteChar (c : Char) : List Char :=
  match c with
  | '\x00' => ['\\', '0']
  | '\t' => ['\\', 't']
  | '\r' => ['\\', 'r']
  | '\n' => ['\\', 'n']
  | '"' => ['\\', '"']
  | '\\' => ['\\', '\\']
  | c => if isVisible c then [c] else ['\\', 'u', '\x7b'] ++ Nat.toDigits 16 c.toNat ++ ['\x7d']

/-- The text between double quotes, with escapes. -/
def quote (text : String) : String :=
  String.ofList (['"'] ++ text.toList.flatMap quoteChar ++ ['"'])

end DecisionFlow.Text
