import DecisionFlow.Expression.Display
import DecisionFlow.Text.Blank
import Mathlib.Tactic.Common

/-!
# Reading displayed expressions

The displayed text of an expression falls into words and parentheses. A reader goes through them once
and puts the expression together again: it keeps on a stack what waits for a further operand, and an
operator takes over what waits as long as that binds at least as tightly. This is all that precedences and
association to the left say, and it is enough: the text of an expression is read as the expression itself
(`Displayed.read_display`), so that no two expressions have the same text (`Expression.eq_of_display_eq`).

Names have to be without blanks and parentheses, since these are not marked in the text. Numbers and
strings are left out.
-/

set_option autoImplicit false

namespace DecisionFlow

/-- A name without blanks and parentheses. -/
def isPlainName (name : String) : Bool :=
  name.toList.all fun c => !Text.isBlank c && c != '(' && c != ')'

/-- The literals are truth values or null, and the names are without blanks and parentheses. -/
def Expression.isPlain : Expression → Bool
  | .binary _ left right => left.isPlain && right.isPlain
  | .not operand => operand.isPlain
  | .literal (.bool _) | .literal .null => true
  | .literal _ => false
  | .field name => isPlainName name
  | .node reference => isPlainName reference

namespace Displayed

/-! ## Words and parentheses -/

/-- A part of a displayed text. -/
inductive Token where
  | word (chars : List Char)
  | opening
  | closing

/-- What a character stands for that is not part of a word. Spaces stand for nothing. -/
def separator? : Char → Option (List Token)
  | ' ' => some []
  | '(' => some [.opening]
  | ')' => some [.closing]
  | _ => none

/-- The characters of a word, if there are any. -/
def wordOf : List Char → List Token
  | [] => []
  | chars => [.word chars]

/-- The parts of a text, after the characters of a word that has begun before it. -/
def split (begun : List Char) : List Char → List Token
  | [] => wordOf begun
  | c :: rest =>
    match separator? c with
    | some tokens => wordOf begun ++ tokens ++ split [] rest
    | none => split (begun ++ [c]) rest

/-- A word does not go on in the text. -/
def Ends (text : List Char) : Prop :=
  ∀ c ∈ text.head?, (separator? c).isSome = true

theorem split_of_ends {text : List Char} (ends : Ends text) (begun : List Char) :
    split begun text = wordOf begun ++ split [] text := by
  cases text with
  | nil => simp [split, wordOf]
  | cons c rest =>
      obtain ⟨tokens, isSeparator⟩ := Option.isSome_iff_exists.1 (ends c rfl)
      simp [split, isSeparator, wordOf]

theorem split_append {chars : List Char} (inner : ∀ c ∈ chars, separator? c = none)
    (begun rest : List Char) : split begun (chars ++ rest) = split (begun ++ chars) rest := by
  induction chars generalizing begun with
  | nil => simp
  | cons c others ih =>
      obtain ⟨here, later⟩ := List.forall_mem_cons.1 inner
      simp [split, here, ih later]

/-- The text falls into the given parts, wherever it stands before the end of a word. -/
def Spells (text : String) (tokens : List Token) : Prop :=
  ∀ rest, Ends rest → split [] (text.toList ++ rest) = tokens ++ split [] rest

section

variable {text other : String} {tokens others : List Token}

theorem spells_word (present : text.toList ≠ [])
    (inner : ∀ c ∈ text.toList, separator? c = none) : Spells text [.word text.toList] := by
  intro rest ends
  obtain ⟨c, chars, isText⟩ := List.exists_cons_of_ne_nil present
  rw [split_append inner, split_of_ends ends, List.nil_append, isText]
  rfl

theorem Spells.space (first : Spells text tokens) (second : Spells other others) :
    Spells (text ++ " " ++ other) (tokens ++ others) := by
  intro rest ends
  have apart : Ends (' ' :: (other.toList ++ rest)) := by
    rintro c ⟨⟩
    rfl
  have skipped : split [] (' ' :: (other.toList ++ rest)) = split [] (other.toList ++ rest) := by
    simp [split, separator?, wordOf]
  have whole : (text ++ " " ++ other).toList ++ rest = text.toList ++ ' ' :: (other.toList ++ rest) := by
    simp
  rw [whole, first _ apart, skipped, second rest ends, List.append_assoc]

/-- Parentheses around the parts of a text, if they are needed. -/
def enclose (needed : Bool) (tokens : List Token) : List Token :=
  if needed then .opening :: (tokens ++ [.closing]) else tokens

theorem Spells.parenthesize (spells : Spells text tokens) (needed : Bool) :
    Spells (Expression.parenthesize needed text) (enclose needed tokens) := by
  cases needed with
  | false => exact spells
  | true =>
      intro rest ends
      have before : Ends (')' :: rest) := by
        rintro c ⟨⟩
        rfl
      have whole : ("(" ++ text ++ ")").toList ++ rest = '(' :: (text.toList ++ ')' :: rest) := by
        simp
      change split [] (("(" ++ text ++ ")").toList ++ rest) = _
      rw [whole]
      simp [split, separator?, wordOf, enclose, spells _ before]

end

/-! ## The parts of a displayed expression -/

/-- The parts of the text of an expression, in surroundings that bind with the given precedence. -/
def tokensWithin (surroundings : Nat) : Expression → List Token
  | .binary operator left right =>
    enclose (operator.precedence < surroundings)
      (tokensWithin operator.precedence left ++ [.word operator.symbol.toList] ++
        tokensWithin (operator.precedence + 1) right)
  | .not operand => enclose (8 < surroundings) ([.word "not".toList] ++ tokensWithin 8 operand)
  | .literal value => enclose (9 < surroundings) [.word value.display.toList]
  | .field name => enclose (9 < surroundings) [.word ("$" ++ name).toList]
  | .node reference => enclose (9 < surroundings) [.word ("@" ++ reference).toList]

theorem separator?_of_isPlainName {name : String} (plain : isPlainName name = true) :
    ∀ c ∈ name.toList, separator? c = none := by
  intro c member
  have isPlain := List.all_eq_true.1 plain c member
  unfold separator?
  split
  · exact absurd isPlain (by decide)
  · exact absurd isPlain (by decide)
  · exact absurd isPlain (by decide)
  · rfl

theorem spells_name {mark : String} {name : String} (marked : mark.toList ≠ [])
    (inner : ∀ c ∈ mark.toList, separator? c = none) (plain : isPlainName name = true) :
    Spells (mark ++ name) [.word (mark ++ name).toList] := by
  apply spells_word
  · simp [marked]
  · intro c member
    rw [String.toList_append] at member
    rcases List.mem_append.1 member with isMark | isName
    · exact inner c isMark
    · exact separator?_of_isPlainName plain c isName

theorem spells_symbol (operator : BinaryOperator) :
    Spells operator.symbol [.word operator.symbol.toList] := by
  apply spells_word
  · cases operator <;> simp [BinaryOperator.symbol]
  · cases operator <;> simp [BinaryOperator.symbol, separator?]

/-- The text of an expression falls into its parts. -/
theorem spells_displayWithin {expression : Expression} (plain : expression.isPlain = true)
    (surroundings : Nat) :
    Spells (expression.displayWithin surroundings) (tokensWithin surroundings expression) := by
  induction expression generalizing surroundings with
  | binary operator left right ihLeft ihRight =>
      obtain ⟨plainLeft, plainRight⟩ := Bool.and_eq_true_iff.1 plain
      exact (((ihLeft plainLeft _).space (spells_symbol operator)).space
        (ihRight plainRight _)).parenthesize _
  | not operand ih =>
      have isNot : Spells "not" [.word "not".toList] :=
        spells_word (by simp) (by simp [separator?])
      exact (isNot.space (ih plain 8)).parenthesize _
  | literal value =>
      refine Spells.parenthesize ?_ _
      cases value with
      | double value => cases plain
      | string value => cases plain
      | bool value =>
          cases value <;>
            exact spells_word (by simp [Value.display, Value.text])
              (by simp [Value.display, Value.text, separator?])
      | null => exact spells_word (by simp [Value.display]) (by simp [Value.display, separator?])
  | field name => exact (spells_name (by simp) (by simp [separator?]) plain).parenthesize _
  | node reference => exact (spells_name (by simp) (by simp [separator?]) plain).parenthesize _

theorem split_display {expression : Expression} (plain : expression.isPlain = true) :
    split [] expression.display.toList = tokensWithin 0 expression := by
  have ends : Ends [] := by
    rintro c ⟨⟩
  simpa [split, wordOf, Expression.display] using spells_displayWithin plain 0 [] ends

/-! ## The reader -/

/-- What waits for an operand. -/
inductive Frame where
  /-- An opening parenthesis. -/
  | enclosed
  | negated
  /-- An operator with its left operand. -/
  | applied (left : Expression) (operator : BinaryOperator)

/-- How far the reader has come: it awaits an operand, or it has read one. What waits for it is listed,
the innermost first. -/
inductive Reading where
  | awaiting (frames : List Frame)
  | complete (frames : List Frame) (operand : Expression)

/-- Gives an operand to what waits for it and binds at least as tightly as the next operator does. -/
def settle (precedence : Nat) : List Frame → Expression → List Frame × Expression
  | .negated :: frames, operand => settle precedence frames (.not operand)
  | .applied left operator :: frames, operand =>
    if precedence ≤ operator.precedence then settle precedence frames (.binary operator left operand)
    else (.applied left operator :: frames, operand)
  | .enclosed :: frames, operand => (.enclosed :: frames, operand)
  | [], operand => ([], operand)

/-- The leaf that is written in a given way. -/
def leaf? : List Char → Option Expression
  | '$' :: name => some (.field (String.ofList name))
  | '@' :: reference => some (.node (String.ofList reference))
  | ['t', 'r', 'u', 'e'] => some (.literal (.bool true))
  | ['f', 'a', 'l', 's', 'e'] => some (.literal (.bool false))
  | ['n', 'u', 'l', 'l'] => some (.literal .null)
  | _ => none

/-- Reads a part of a text. -/
def step : Reading → Token → Option Reading
  | .awaiting frames, .opening => some (.awaiting (.enclosed :: frames))
  | .awaiting frames, .word ['n', 'o', 't'] => some (.awaiting (.negated :: frames))
  | .awaiting frames, .word chars => (leaf? chars).map (.complete frames)
  | .complete frames operand, .word chars => do
    let operator ← BinaryOperator.ofSymbol? (String.ofList chars)
    let (frames, left) := settle operator.precedence frames operand
    return .awaiting (.applied left operator :: frames)
  | .complete frames operand, .closing =>
    match settle 0 frames operand with
    | (.enclosed :: frames, operand) => some (.complete frames operand)
    | _ => none
  | _, _ => none

/-- The expression that has a text. -/
def read (text : String) : Option Expression := do
  match ← (split [] text.toList).foldlM step (.awaiting []) with
  | .awaiting _ => none
  | .complete frames operand =>
    match settle 0 frames operand with
    | ([], expression) => some expression
    | _ => none

/-! ## Reading back -/

/-- No operator that binds with the given precedence, or more tightly, takes over what waits. -/
def Holds (precedence : Nat) (frames : List Frame) : Prop :=
  ∀ (operator : BinaryOperator) (operand : Expression), precedence ≤ operator.precedence →
    settle operator.precedence frames operand = (frames, operand)

/-- After the parts the reader has read an operand that an operator of the given precedence, or one
that binds more loosely, sees as the expression. -/
def Reads (tokens : List Token) (precedence : Nat) (expression : Expression) : Prop :=
  ∀ frames, Holds precedence frames → ∃ others operand,
    tokens.foldlM step (.awaiting frames) = some (.complete others operand) ∧
      ∀ next ≤ precedence, settle next others operand = settle next frames expression

section

variable {tokens : List Token} {precedence : Nat} {frames : List Frame} {expression : Expression}

theorem Holds.mono {higher : Nat} (holds : Holds precedence frames) (above : precedence ≤ higher) :
    Holds higher frames :=
  fun operator operand binds => holds operator operand (Nat.le_trans above binds)

theorem holds_enclosed (precedence : Nat) (frames : List Frame) :
    Holds precedence (.enclosed :: frames) :=
  fun _ _ _ => rfl

theorem holds_negated (frames : List Frame) : Holds 8 (.negated :: frames) := by
  intro operator operand binds
  cases operator <;> exact absurd binds (by decide)

theorem holds_applied (left : Expression) (operator : BinaryOperator) (frames : List Frame) :
    Holds (operator.precedence + 1) (.applied left operator :: frames) := by
  intro next operand binds
  rw [settle, if_neg (by omega)]

/-- Parentheses hide from what waits outside how the expression inside was put together. -/
theorem Reads.enclosed (reads : Reads tokens 0 expression) (precedence : Nat) :
    Reads (enclose true tokens) precedence expression := by
  intro frames holds
  obtain ⟨others, operand, run, same⟩ := reads _ (holds_enclosed 0 frames)
  refine ⟨frames, expression, ?_, fun next _ => rfl⟩
  have closed : step (.complete others operand) .closing = some (.complete frames expression) := by
    simp [step, same 0 (Nat.le_refl 0), settle]
  have opened : step (.awaiting frames) .opening = some (.awaiting (.enclosed :: frames)) := rfl
  simp [enclose, List.foldlM_cons, List.foldlM_append, opened, run, closed]

/-- Parts that are read without parentheses where the surroundings bind no more tightly are read with
parentheses elsewhere. -/
theorem Reads.enclose_of_le {own : Nat}
    (reads : ∀ precedence ≤ own, Reads tokens precedence expression) (surroundings : Nat) :
    Reads (enclose (own < surroundings) tokens) surroundings expression := by
  by_cases looser : own < surroundings
  · rw [decide_eq_true looser]
    exact (reads 0 (Nat.zero_le _)).enclosed surroundings
  · rw [decide_eq_false looser]
    exact reads surroundings (Nat.not_lt.1 looser)

theorem reads_leaf {chars : List Char} (isLeaf : leaf? chars = some expression) (precedence : Nat) :
    Reads [.word chars] precedence expression := by
  intro frames holds
  refine ⟨frames, expression, ?_, fun next _ => rfl⟩
  have notNegation : chars ≠ ['n', 'o', 't'] := by
    rintro rfl
    cases isLeaf
  have isRead : step (.awaiting frames) (.word chars) = some (.complete frames expression) := by
    simp [step, isLeaf]
  simp [List.foldlM_cons, isRead]

theorem Reads.not (reads : Reads tokens 8 expression) (precedence : Nat) (loose : precedence ≤ 8) :
    Reads ([.word "not".toList] ++ tokens) precedence (.not expression) := by
  intro frames holds
  obtain ⟨others, operand, run, same⟩ := reads _ (holds_negated frames)
  refine ⟨others, operand, run, fun next below => ?_⟩
  rw [same next (Nat.le_trans below loose), settle]

theorem Reads.binary {operator : BinaryOperator} {left right : Expression}
    {leftTokens rightTokens : List Token} (readsLeft : Reads leftTokens operator.precedence left)
    (readsRight : Reads rightTokens (operator.precedence + 1) right) (precedence : Nat)
    (loose : precedence ≤ operator.precedence) :
    Reads (leftTokens ++ [.word operator.symbol.toList] ++ rightTokens) precedence
      (.binary operator left right) := by
  intro frames holds
  obtain ⟨others, operand, runLeft, sameLeft⟩ := readsLeft frames (holds.mono loose)
  obtain ⟨others', operand', runRight, sameRight⟩ :=
    readsRight _ (holds_applied left operator frames)
  have applied : step (.complete others operand) (.word operator.symbol.toList) =
      some (.awaiting (.applied left operator :: frames)) := by
    have isOperator : BinaryOperator.ofSymbol? operator.symbol = some operator := by
      cases operator <;> rfl
    have settled := (sameLeft _ (Nat.le_refl _)).trans (holds operator left loose)
    simp [step, isOperator, settled]
  refine ⟨others', operand', ?_, fun next below => ?_⟩
  · simp [List.foldlM_append, runLeft, applied, runRight]
  · rw [sameRight next (by omega), settle, if_pos (Nat.le_trans below loose)]

/-- The parts of an expression are read as the expression. -/
theorem reads_tokensWithin (plain : expression.isPlain = true) (surroundings : Nat) :
    Reads (tokensWithin surroundings expression) surroundings expression := by
  induction expression generalizing surroundings with
  | binary operator left right ihLeft ihRight =>
      obtain ⟨plainLeft, plainRight⟩ := Bool.and_eq_true_iff.1 plain
      exact Reads.enclose_of_le (Reads.binary (ihLeft plainLeft _) (ihRight plainRight _)) surroundings
  | not operand ih => exact Reads.enclose_of_le (Reads.not (ih plain 8)) surroundings
  | literal value =>
      refine Reads.enclose_of_le (fun precedence _ => reads_leaf ?_ precedence) surroundings
      cases value with
      | double value => cases plain
      | string value => cases plain
      | bool value => cases value <;> rfl
      | null => rfl
  | field name =>
      refine Reads.enclose_of_le (fun precedence _ => reads_leaf ?_ precedence) surroundings
      simp [leaf?]
  | node reference =>
      refine Reads.enclose_of_le (fun precedence _ => reads_leaf ?_ precedence) surroundings
      simp [leaf?]

end

/-- A displayed expression is read as the expression itself. -/
theorem read_display {expression : Expression} (plain : expression.isPlain = true) :
    read expression.display = some expression := by
  have nothingWaits : Holds 0 [] := fun _ _ _ => rfl
  obtain ⟨frames, operand, run, same⟩ := reads_tokensWithin plain 0 [] nothingWaits
  rw [read, split_display plain, run]
  simp [same 0 (Nat.le_refl 0), settle]

end Displayed

namespace Expression

/-- **The text of an expression determines it.** Two expressions whose literals are truth values or
null and whose names are without blanks and parentheses are the same if they are displayed alike. -/
theorem eq_of_display_eq {first second : Expression} (plain : first.isPlain = true)
    (plainSecond : second.isPlain = true) (same : first.display = second.display) :
    first = second := by
  have readFirst := Displayed.read_display plain
  rw [same, Displayed.read_display plainSecond] at readFirst
  exact (Option.some.inj readFirst).symm

/-- A name with blanks can look like an expression. -/
example : (field "a + $b").display = (binary .add (field "a") (field "b")).display := by
  decide

/-- Three conditions, taken in turn. -/
def conditions : Expression :=
  [.binary .equal (.binary .subtract (.field "b") (.binary .subtract (.field "c") (.node "d.e")))
      (.literal .null),
    .literal (.bool false)].foldl (.binary .and)
    (.not (.binary .or (.field "a") (.literal (.bool true))))

/-- The same conditions, as operands of nested connectives. -/
def nestedConditions : Expression :=
  .binary .and
    (.binary .and (.not (.binary .or (.field "a") (.literal (.bool true))))
      (.binary .equal (.binary .subtract (.field "b") (.binary .subtract (.field "c") (.node "d.e")))
        (.literal .null)))
    (.literal (.bool false))

theorem eq_of_display_eq_of_conditions :
    conditions.isPlain = true ∧ nestedConditions.isPlain = true ∧
      conditions.display = "not ($a or true) and $b - ($c - @d.e) == null and false" ∧
      conditions.display = nestedConditions.display ∧ conditions = nestedConditions := by
  have plain : conditions.isPlain = true := by decide
  have plainNested : nestedConditions.isPlain = true := by decide
  have text : conditions.display = "not ($a or true) and $b - ($c - @d.e) == null and false" := by
    decide
  have same : conditions.display = nestedConditions.display := rfl
  exact ⟨plain, plainNested, text, same, eq_of_display_eq plain plainNested same⟩

end Expression

end DecisionFlow
