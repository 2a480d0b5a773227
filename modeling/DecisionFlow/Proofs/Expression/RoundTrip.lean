import DecisionFlow.Compilation.Parameter
import DecisionFlow.Proofs.Decimal.Whole
import DecisionFlow.Proofs.Expression.Json

/-!
# Expressions that are read back equal

Expressions have no other form than their JSON form when they are stored. An expression with finite
literals that names its fields and nodes is read back as an equal one, and only such expressions are
read from JSON with finite numbers (`NodeDocument.expressionOf_roundTrip`).

Shapes, names and operators come back as they were. What is left are the literals: a number that is
written as a whole number is read as the double that is equal to it, and every other finite number
is written as it is.
-/

set_option autoImplicit false

namespace DecisionFlow

/-- A number is held without loss. -/
theorem Double.unpack_toFloat_ofFloat (value : Float) :
    (Double.ofFloat value).toFloat.toModel.unpack = value.toModel.unpack :=
  Decimal.unpack_pack_unpack value

/-! ## Finite numbers -/

/-- The value is a finite number or no number. -/
def Value.IsFinite : Value → Prop
  | .double value => Decimal.isFinite value.toFloat = true
  | _ => True

/-- All literals of the expression are finite numbers or no numbers. -/
def Expression.IsFinite : Expression → Prop
  | .binary _ left right => left.IsFinite ∧ right.IsFinite
  | .not operand => operand.IsFinite
  | .literal value => value.IsFinite
  | .field _ | .node _ => True

namespace Json

mutual

/-- All numbers in the value are finite. -/
def IsFinite : Json → Prop
  | .array items => ItemsFinite items
  | .object members => MembersFinite members
  | .int value => Decimal.isFinite (Decimal.toFloat (value < 0) value.natAbs 0) = true
  | .float value => Decimal.isFinite value = true
  | .null | .bool _ | .string _ => True

def ItemsFinite : List Json → Prop
  | [] => True
  | item :: rest => item.IsFinite ∧ ItemsFinite rest

def MembersFinite : List (String × Json) → Prop
  | [] => True
  | (_, value) :: rest => value.IsFinite ∧ MembersFinite rest

end

theorem itemsFinite_iff {items : List Json} :
    ItemsFinite items ↔ ∀ item ∈ items, item.IsFinite := by
  induction items with
  | nil => simp [ItemsFinite]
  | cons item rest ih => simp [ItemsFinite, ih]

theorem membersFinite_iff {members : List (String × Json)} :
    MembersFinite members ↔ ∀ member ∈ members, member.2.IsFinite := by
  induction members with
  | nil => simp [MembersFinite]
  | cons member rest ih =>
      obtain ⟨name, value⟩ := member
      rw [MembersFinite, ih, List.forall_mem_cons]

end Json

/-! ## Values -/

namespace Value

theorem isFinite_number_iff {value : Float} :
    (number value).IsFinite ↔ Decimal.isFinite value = true := by
  change (Double.ofFloat value).toFloat.toModel.unpack.isFinite = true ↔ _
  rw [Double.unpack_toFloat_ofFloat]
  rfl

theorem beq_number_iff (read : Float) (value : Double) :
    (number read == .double value) = true ↔ (read == value.toFloat) = true := by
  change ((Double.ofFloat read).toFloat.toModel.unpack.beq value.toFloat.toModel.unpack) = true ↔ _
  rw [Double.unpack_toFloat_ofFloat]
  rfl

theorem isFinite_of_ofJson? {json : Json} {value : Value} (finite : json.IsFinite)
    (read : ofJson? json = some value) : value.IsFinite := by
  cases json with
  | int _ | float _ =>
      cases read
      exact isFinite_number_iff.2 finite
  | null | bool _ | string _ =>
      cases read
      trivial
  | array _ | object _ => cases read

theorem toInt?_of_wholeNumber? {value : Float} {whole : Int}
    (isWhole : wholeNumber? value = some whole) :
    (Decimal.Binary.ofFloat value).toInt? = some whole ∧
      whole.natAbs < 2 * Decimal.hiddenBit := by
  unfold wholeNumber? at isWhole
  split at isWhole
  next found isInt =>
    split at isWhole
    next exact =>
      cases isWhole
      exact ⟨isInt, exact⟩
    next => cases isWhole
  next => cases isWhole

/-- A finite number is read back as an equal number. -/
theorem reread_beq {value : Value} (finite : value.IsFinite) : (value.reread == value) = true := by
  cases value with
  | double value =>
      rw [reread, toJson]
      split
      next whole isWhole =>
        obtain ⟨isInt, exact⟩ := toInt?_of_wholeNumber? isWhole
        exact (beq_number_iff _ value).2 (Decimal.toFloat_whole isInt exact)
      next =>
        have isNumber : Decimal.isFinite value.toFloat = true := finite
        rw [if_pos isNumber]
        exact (beq_number_iff _ value).2 (Decimal.beq_self_of_isFinite isNumber)
  | string text => exact beq_self_eq_true text
  | bool value => exact beq_self_eq_true value
  | null => rfl

end Value

/-! ## Expressions -/

namespace Expression

theorem reread_beq {expression : Expression} (finite : expression.IsFinite) :
    (expression.reread == expression) = true := by
  induction expression with
  | binary operator left right ihLeft ihRight =>
      change (operator == operator && left.reread.beq left && right.reread.beq right) = true
      rw [beq_self_eq_true, Bool.true_and]
      exact Bool.and_eq_true_iff.2 ⟨ihLeft finite.1, ihRight finite.2⟩
  | not operand ih => exact ih finite
  | literal value => exact Value.reread_beq finite
  | field name => exact beq_self_eq_true name
  | node reference => exact beq_self_eq_true reference

theorem inherits_isFinite : Inherits Json.IsFinite IsFinite where
  items finite := Json.itemsFinite_iff.1 finite
  members finite := Json.membersFinite_iff.1 finite
  literal := Value.isFinite_of_ofJson?
  field _ := trivial
  node _ := trivial
  not := id
  binary left right := ⟨left, right⟩

end Expression

/-- **Expressions are read back equal.** An expression with finite literals that names its fields
and nodes can be read from its JSON form, and is read as an equal expression. Only such expressions
are read from JSON values with finite numbers. -/
theorem NodeDocument.expressionOf_roundTrip (node : NodeDocument) :
    (∀ expression : Expression, expression.IsFinite → expression.Named →
      ∃ again, node.expressionOf expression.toJson = .ok again ∧ (again == expression) = true) ∧
    (∀ (json : Json) (expression : Expression), json.IsFinite →
      node.expressionOf json = .ok expression → expression.IsFinite ∧ expression.Named) := by
  constructor
  · intro expression finite named
    refine ⟨expression.reread, ?_, expression.reread_beq finite⟩
    rw [expressionOf, Expression.ofJson_toJson named]
    rfl
  · intro json expression finite read
    have isRead := mapError_eq_ok_iff.1 read
    exact ⟨Expression.inherits_isFinite.of_ofJson finite isRead, Expression.named_of_ofJson isRead⟩

/-- Three more than half of a field. -/
def Expression.aboveHalf : Expression :=
  .binary .add (.binary .multiply (.field "x") (.literal (.number 0.5))) (.literal (.number 3))

theorem NodeDocument.expressionOf_roundTrip_aboveHalf :
    (∃ again, NodeDocument.expressionOf ⟨"n", "arithmetic", []⟩ Expression.aboveHalf.toJson =
      .ok again ∧ (again == Expression.aboveHalf) = true) ∧
    Json.IsFinite (.float 0.5) ∧ (Expression.literal (.number 0.5)).IsFinite := by
  have half : Decimal.isFinite 0.5 = true := by decide +kernel
  have three : Decimal.isFinite 3 = true := by decide +kernel
  have finite : Expression.aboveHalf.IsFinite :=
    ⟨⟨trivial, Value.isFinite_number_iff.2 half⟩, Value.isFinite_number_iff.2 three⟩
  have named : Expression.aboveHalf.Named := ⟨⟨by simp [Expression.Named], trivial⟩, trivial⟩
  obtain ⟨back, forth⟩ := NodeDocument.expressionOf_roundTrip ⟨"n", "arithmetic", []⟩
  exact ⟨back _ finite named, half, (forth (.float 0.5) _ half rfl).1⟩

end DecisionFlow
