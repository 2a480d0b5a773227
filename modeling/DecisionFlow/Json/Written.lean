import DecisionFlow.Decimal.Scaling
import DecisionFlow.Json.Basic

/-!
# JSON as it is written

Reading a JSON text first gives a tree that still shows how the text was written: members in their
order with all repetitions, numbers as their digits, and strings whose escapes do not spell a text
marked as such. A value is made from that tree in a second step, which is where repeated members,
numbers out of range, unpaired surrogates and excessive nesting are dealt with. A reader that
ignores part of a document ignores these faults there too.
-/

set_option autoImplicit false

namespace DecisionFlow.Json

/-- A number as written: sign, whole digits, fraction digits and exponent. -/
structure Numeral where
  negative : Bool
  whole : List Char
  fraction : Option (List Char)
  exponent : Option Int

/-- A JSON text as a tree. A string is absent if its escapes hold an unpaired surrogate. -/
inductive Written where
  | null
  | bool (value : Bool)
  | number (value : Numeral)
  | string (value : Option String)
  | array (items : List Written)
  | object (members : List (Option String × Written))

/-! ## Tokens -/

/-- The four characters that may stand between tokens. -/
def isGap (c : Char) : Bool :=
  c = ' ' || c = '\t' || c = '\n' || c = '\r'

/-- The text from its next token on. -/
def skipGap (chars : List Char) : List Char :=
  chars.dropWhile isGap

/-- A leading run of decimal digits and the rest. -/
def spanDigits (chars : List Char) : List Char × List Char :=
  chars.span Char.isDigit

/-- A fraction: a point and at least one digit. The outer `none` is a point without digits. -/
def readFraction : List Char → Option (Option (List Char) × List Char)
  | '.' :: rest =>
    match spanDigits rest with
    | ([], _) => none
    | (digits, rest) => some (some digits, rest)
  | rest => some (none, rest)

/-- The digits of an exponent, of which there must be one. -/
def readExponentDigits (negative : Bool) (chars : List Char) :
    Option (Option Int × List Char) :=
  match spanDigits chars with
  | ([], _) => none
  | (digits, rest) =>
    let magnitude := Int.ofNat (Decimal.natOfDigits digits)
    some (some (if negative then -magnitude else magnitude), rest)

/-- An exponent: the letter, an optional sign and digits. -/
def readExponent : List Char → Option (Option Int × List Char)
  | 'e' :: '-' :: rest | 'E' :: '-' :: rest => readExponentDigits true rest
  | 'e' :: '+' :: rest | 'E' :: '+' :: rest => readExponentDigits false rest
  | 'e' :: rest | 'E' :: rest => readExponentDigits false rest
  | rest => some (none, rest)

/-- A number after its sign. A leading zero stands alone. -/
def readNumeral (negative : Bool) (chars : List Char) : Option (Numeral × List Char) :=
  match spanDigits chars with
  | ([], _) => none
  | ('0' :: _ :: _, _) => none
  | (whole, rest) => do
    let (fraction, rest) ← readFraction rest
    let (exponent, rest) ← readExponent rest
    return (⟨negative, whole, fraction, exponent⟩, rest)

/-- A character of a string, or a code unit given by an escape. -/
inductive Piece where
  | plain (c : Char)
  | unit (value : Nat)

/-- The value of a hexadecimal digit. -/
def hexDigit? (c : Char) : Option Nat :=
  if c.isDigit then some (c.toNat - '0'.toNat)
  else if 'a' ≤ c ∧ c ≤ 'f' then some (c.toNat - 'a'.toNat + 10)
  else if 'A' ≤ c ∧ c ≤ 'F' then some (c.toNat - 'A'.toNat + 10)
  else none

/-- The value of four hexadecimal digits. -/
def hexUnit? (a b c d : Char) : Option Nat := do
  return (((← hexDigit? a) * 16 + (← hexDigit? b)) * 16 + (← hexDigit? c)) * 16 + (← hexDigit? d)

/-- The pieces of a string up to its closing quote, and what follows it. -/
def readPieces : List Char → Option (List Piece × List Char)
  | [] => none
  | '"' :: rest => some ([], rest)
  | '\\' :: 'u' :: a :: b :: c :: d :: rest => do
    let value ← hexUnit? a b c d
    let (pieces, rest) ← readPieces rest
    return (.unit value :: pieces, rest)
  | '\\' :: letter :: rest => do
    let c ← match letter with
      | '"' => some '"'
      | '\\' => some '\\'
      | '/' => some '/'
      | 'b' => some '\x08'
      | 'f' => some '\x0c'
      | 'n' => some '\n'
      | 'r' => some '\r'
      | 't' => some '\t'
      | _ => none
    let (pieces, rest) ← readPieces rest
    return (.plain c :: pieces, rest)
  | c :: rest =>
    if c.toNat < 0x20 then none
    else do
      let (pieces, rest) ← readPieces rest
      return (.plain c :: pieces, rest)

/-- The code unit opens a surrogate pair. -/
def isLeading (value : Nat) : Bool := 0xD800 ≤ value && value < 0xDC00

/-- The code unit closes a surrogate pair. -/
def isTrailing (value : Nat) : Bool := 0xDC00 ≤ value && value < 0xE000

/-- The characters that the pieces spell, if every surrogate has its partner right beside it. -/
def spell : List Piece → Option (List Char)
  | [] => some []
  | .plain c :: rest => (spell rest).map (c :: ·)
  | .unit first :: .unit second :: rest =>
    if isLeading first && isTrailing second then
      (spell rest).map
        (Char.ofNat (0x10000 + (first - 0xD800) * 0x400 + (second - 0xDC00)) :: ·)
    else if isLeading first || isTrailing first then none
    else (spell (.unit second :: rest)).map (Char.ofNat first :: ·)
  | .unit value :: rest =>
    if isLeading value || isTrailing value then none
    else (spell rest).map (Char.ofNat value :: ·)

/-- A string after its opening quote. -/
def readString (chars : List Char) : Option (Option String × List Char) := do
  let (pieces, rest) ← readPieces chars
  return ((spell pieces).map String.ofList, rest)

/-! ## Values

Every call reads at least one character for every two units of its allowance, so twice the length
of the text is always enough. -/

mutual

/-- The value at the start of the text, and what follows it. -/
def readValue : Nat → List Char → Option (Written × List Char)
  | 0, _ => none
  | allowance + 1, chars =>
    match skipGap chars with
    | 'n' :: 'u' :: 'l' :: 'l' :: rest => some (.null, rest)
    | 't' :: 'r' :: 'u' :: 'e' :: rest => some (.bool true, rest)
    | 'f' :: 'a' :: 'l' :: 's' :: 'e' :: rest => some (.bool false, rest)
    | '"' :: rest => do
      let (text, rest) ← readString rest
      return (.string text, rest)
    | '[' :: rest =>
      match skipGap rest with
      | ']' :: rest => some (.array [], rest)
      | rest => do
        let (items, rest) ← readItems allowance rest
        return (.array items, rest)
    | '\x7b' :: rest =>
      match skipGap rest with
      | '\x7d' :: rest => some (.object [], rest)
      | rest => do
        let (members, rest) ← readMembers allowance rest
        return (.object members, rest)
    | '-' :: rest => do
      let (numeral, rest) ← readNumeral true rest
      return (.number numeral, rest)
    | rest => do
      let (numeral, rest) ← readNumeral false rest
      return (.number numeral, rest)

/-- The remaining items of an array, of which there is at least one, up to its bracket. -/
def readItems : Nat → List Char → Option (List Written × List Char)
  | 0, _ => none
  | allowance + 1, chars => do
    let (item, rest) ← readValue allowance chars
    match skipGap rest with
    | ',' :: rest =>
      let (items, rest) ← readItems allowance rest
      return (item :: items, rest)
    | ']' :: rest => return ([item], rest)
    | _ => none

/-- The remaining members of an object, of which there is at least one, up to its bracket. -/
def readMembers : Nat → List Char → Option (List (Option String × Written) × List Char)
  | 0, _ => none
  | allowance + 1, chars =>
    match skipGap chars with
    | '"' :: rest => do
      let (key, rest) ← readString rest
      match skipGap rest with
      | ':' :: rest =>
        let (value, rest) ← readValue allowance rest
        match skipGap rest with
        | ',' :: rest =>
          let (members, rest) ← readMembers allowance rest
          return ((key, value) :: members, rest)
        | '\x7d' :: rest => return ([(key, value)], rest)
        | _ => none
      | _ => none
    | _ => none

end

/-- The tree of a text that is one JSON value and nothing else. -/
def Written.ofText? (text : String) : Option Written := do
  let chars := text.toList
  let (value, rest) ← readValue (2 * chars.length + 2) chars
  if (skipGap rest).isEmpty then return value else none

/-! ## From written form to value -/

/-- The number that a numeral stands for. Whole numbers stay whole within sixty-four bits, apart
from a negative zero; all other numbers are read by scaling, within the finite doubles. -/
def Numeral.toJson? (numeral : Numeral) : Option Json :=
  let coefficient := Decimal.natOfDigits numeral.whole
  let signed := if numeral.negative then -Int.ofNat coefficient else Int.ofNat coefficient
  let isWhole := numeral.fraction.isNone && numeral.exponent.isNone
  let isNegativeZero := numeral.negative && coefficient == 0
  if isWhole && !isNegativeZero && -0x8000000000000000 ≤ signed &&
      signed < Decimal.wordBound then
    some (.int signed)
  else
    (Decimal.scaled? numeral.negative numeral.whole (numeral.fraction.getD [])
      (numeral.exponent.getD 0)).map .float

mutual

/-- The value that a tree stands for, if it nests at most `room` levels deep. -/
def Written.toJson? (room : Nat) : Written → Option Json
  | .null => some .null
  | .bool value => some (.bool value)
  | .number value => value.toJson?
  | .string value => value.map .string
  | .array items =>
    match room with
    | 0 => none
    | room + 1 => (Written.itemsToJson? room items).map .array
  | .object members =>
    match room with
    | 0 => none
    | room + 1 => (Written.membersToJson? room members).map Json.ofMembers

def Written.itemsToJson? (room : Nat) : List Written → Option (List Json)
  | [] => some []
  | item :: rest => do
    let value ← Written.toJson? room item
    let values ← Written.itemsToJson? room rest
    return value :: values

def Written.membersToJson? (room : Nat) :
    List (Option String × Written) → Option (List (String × Json))
  | [] => some []
  | (key, value) :: rest => do
    let key ← key
    let value ← Written.toJson? room value
    let members ← Written.membersToJson? room rest
    return (key, value) :: members

end

/-- The deepest nesting of arrays and objects that is read. -/
def maximalNesting : Nat := 127

/-- The value of a JSON text. -/
def ofText? (text : String) : Option Json := do
  (← Written.ofText? text).toJson? maximalNesting

end DecisionFlow.Json
