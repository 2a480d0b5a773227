import DecisionFlow.Expression.Json
import DecisionFlow.Proofs.Outcome

/-!
# Expressions written and read again

The JSON form of an expression whose fields and node references have names is read back as the same
expression, except that each literal becomes what its own JSON form stands for. An expression that
was read names all its fields and nodes.
-/

set_option autoImplicit false

namespace DecisionFlow

/-- The value that the JSON form of a value stands for. -/
def Value.reread (value : Value) : Value :=
  (Value.ofJson? value.toJson).getD .null

/-- The JSON form of a value is a scalar. -/
theorem Value.ofJson?_toJson (value : Value) : Value.ofJson? value.toJson = some value.reread := by
  unfold reread
  cases value with
  | double value =>
      simp only [toJson]
      split
      · rfl
      · split <;> rfl
  | string value | bool value => rfl
  | null => rfl

namespace Expression

/-- All fields and nodes that the expression refers to have names. -/
def Named : Expression → Prop
  | .binary _ left right => left.Named ∧ right.Named
  | .not operand => operand.Named
  | .literal _ => True
  | .field name => name ≠ ""
  | .node reference => reference ≠ ""

/-- The expression with its literals as they are read from their JSON forms. -/
def reread : Expression → Expression
  | .binary operator left right => .binary operator left.reread right.reread
  | .not operand => .not operand.reread
  | .literal value => .literal value.reread
  | .field name => .field name
  | .node reference => .node reference

@[simp]
theorem nodes_reread (expression : Expression) : expression.reread.nodes = expression.nodes := by
  induction expression with
  | binary operator left right ihLeft ihRight => simp [reread, nodes, ihLeft, ihRight]
  | not operand ih => simp [reread, nodes, ih]
  | literal | field | node => rfl

/-! ## Reading each form -/

theorem ofJson_literal (value : Value) :
    ofJson (Json.ofMembers [("literal", value.toJson)]) = .ok (.literal value.reread) := by
  simp [Json.ofMembers, Entries.ofList, Entries.insert, ofJson, ofMembers, forms, Entries.contains,
    Entries.find?_cons, Value.ofJson?_toJson]

theorem ofJson_field (name : String) :
    ofJson (Json.ofMembers [("field", .string name)]) =
      if name = "" then .error (.emptyName "field") else .ok (.field name) := by
  by_cases unnamed : name = "" <;>
    simp [Json.ofMembers, Entries.ofList, Entries.insert, ofJson, ofMembers, forms,
      Entries.contains, Entries.find?_cons, readName, unnamed, bind, Except.bind, pure, Except.pure]

theorem ofJson_node (reference : String) :
    ofJson (Json.ofMembers [("node", .string reference)]) =
      if reference = "" then .error (.emptyName "node") else .ok (.node reference) := by
  by_cases unnamed : reference = "" <;>
    simp [Json.ofMembers, Entries.ofList, Entries.insert, ofJson, ofMembers, forms,
      Entries.contains, Entries.find?_cons, readName, unnamed, bind, Except.bind, pure, Except.pure]

/-- The JSON form of an operation is read as its operator and its arguments. -/
theorem ofJson_operation (operator : String) (items : List Json) :
    ofJson (Json.ofMembers [("op", .string operator), ("args", .array items)]) =
      (readAll items >>= ofOperation operator) := by
  have sorted : Json.ofMembers [("op", .string operator), ("args", .array items)] =
      .object [("args", .array items), ("op", .string operator)] :=
    congrArg Json.object (if_pos (show "args" < "op" by decide))
  simp [sorted, ofJson, readArguments, readItems, ofMembers, forms, Entries.contains,
    Entries.find?_cons]

theorem ofOperation_symbol (operator : BinaryOperator) (left right : Expression) :
    ofOperation operator.symbol [left, right] = .ok (.binary operator left right) := by
  cases operator <;> rfl

theorem ofOperation_not (operand : Expression) : ofOperation "not" [operand] = .ok (.not operand) :=
  rfl

/-! ## Writing and reading -/

/-- An expression that names its fields and nodes can be read from its JSON form. -/
theorem ofJson_toJson {expression : Expression} (named : expression.Named) :
    ofJson expression.toJson = .ok expression.reread := by
  induction expression with
  | binary operator left right ihLeft ihRight =>
      rw [toJson, ofJson_operation]
      simp only [readAll, ihLeft named.1, ihRight named.2]
      exact ofOperation_symbol operator left.reread right.reread
  | not operand ih =>
      rw [toJson, ofJson_operation]
      simp only [readAll, ih named]
      exact ofOperation_not operand.reread
  | literal value => exact ofJson_literal value
  | field name => rw [toJson, ofJson_field, if_neg named, reread]
  | node reference => rw [toJson, ofJson_node, if_neg named, reread]

/-! ## What can be read -/

/-- What holds of a JSON value holds of its parts, and what is read from such a value has a property:
literals have it if the value they are read from is such a value, fields and nodes if they have
names, and operations if their operands do. -/
structure Inherits (fine : Json → Prop) (proper : Expression → Prop) : Prop where
  items : ∀ {items : List Json}, fine (.array items) → ∀ item ∈ items, fine item
  members : ∀ {members : List (String × Json)}, fine (.object members) →
    ∀ member ∈ members, fine member.2
  literal : ∀ {json : Json} {value : Value}, fine json → Value.ofJson? json = some value →
    proper (.literal value)
  field : ∀ {name : String}, name ≠ "" → proper (.field name)
  node : ∀ {reference : String}, reference ≠ "" → proper (.node reference)
  not : ∀ {operand : Expression}, proper operand → proper (.not operand)
  binary : ∀ {operator : BinaryOperator} {left right : Expression}, proper left → proper right →
    proper (.binary operator left right)

theorem ne_empty_of_readName {form name : String} {json : Option Json}
    (read : readName form json = .ok name) : name ≠ "" := by
  unfold readName at read
  split at read
  next text =>
    split at read
    · cases read
    next present =>
      cases read
      simpa using present
  next => cases read

namespace Inherits

variable {fine : Json → Prop} {proper : Expression → Prop}

section

variable (inherits : Inherits fine proper)
include inherits

theorem of_foldl {operator : BinaryOperator} {first : Expression} {rest : List Expression}
    (isProper : proper first) (others : ∀ argument ∈ rest, proper argument) :
    proper (rest.foldl (.binary operator) first) := by
  induction rest generalizing first with
  | nil => exact isProper
  | cons next rest ih =>
      obtain ⟨nextProper, others⟩ := List.forall_mem_cons.1 others
      exact ih (inherits.binary isProper nextProper) others

theorem of_ofOperation {operator : String} {arguments : List Expression} {expression : Expression}
    (read : ofOperation operator arguments = .ok expression)
    (all : ∀ argument ∈ arguments, proper argument) : proper expression := by
  unfold ofOperation at read
  dsimp only at read
  split at read
  · split at read
    · split at read
      · cases read
        obtain ⟨firstProper, others⟩ := List.forall_mem_cons.1 all
        exact inherits.of_foldl firstProper others
      · cases read
    · split at read
      · cases read
        exact inherits.binary (all _ (by simp)) (all _ (by simp))
      · cases read
  · split at read
    · split at read
      · cases read
        exact inherits.not (all _ (by simp))
      · cases read
    · cases read

theorem of_ofMembers {members : List (String × Json)}
    {arguments : Option (Except ExpressionError (List Expression))} {expression : Expression}
    (isFine : ∀ member ∈ members, fine member.2)
    (read : ofMembers members arguments = .ok expression)
    (all : ∀ expressions, arguments = some (.ok expressions) →
      ∀ argument ∈ expressions, proper argument) : proper expression := by
  unfold ofMembers at read
  split at read
  · cases read
  · split at read
    next value found =>
      cases read
      obtain ⟨json, isMember, isValue⟩ := Option.bind_eq_some_iff.1 found
      exact inherits.literal (isFine _ (Entries.mem_of_find? isMember)) isValue
    · cases read
  · obtain ⟨name, readName, read⟩ := bind_eq_ok_iff.1 read
    cases read
    exact inherits.field (ne_empty_of_readName readName)
  · obtain ⟨name, readName, read⟩ := bind_eq_ok_iff.1 read
    cases read
    exact inherits.node (ne_empty_of_readName readName)
  · split at read
    · split at read
      · cases read
      · obtain ⟨expressions, isRead, read⟩ := bind_eq_ok_iff.1 read
        exact inherits.of_ofOperation read (all expressions (by rw [isRead]))
    · cases read
  · cases read

end

mutual

/-- What is read from a fine value is proper. -/
theorem of_ofJson (inherits : Inherits fine proper) {expression : Expression} :
    ∀ {json : Json}, fine json → ofJson json = .ok expression → proper expression
  | .array _, _, read => by cases read
  | .object members, isFine, read =>
    inherits.of_ofMembers (inherits.members isFine) read fun _ arguments =>
      of_readArguments inherits (inherits.members isFine) arguments
  | .null, isFine, read | .bool _, isFine, read | .string _, isFine, read | .int _, isFine, read
  | .float _, isFine, read => by
    cases read
    exact inherits.literal isFine rfl

theorem of_readArguments (inherits : Inherits fine proper) {expressions : List Expression} :
    ∀ {members : List (String × Json)}, (∀ member ∈ members, fine member.2) →
      readArguments members = some (.ok expressions) → ∀ argument ∈ expressions, proper argument
  | [], _, read => by cases read
  | (key, value) :: rest, isFine, read => by
    obtain ⟨valueFine, restFine⟩ := List.forall_mem_cons.1 isFine
    unfold readArguments at read
    split at read
    · exact of_readItems inherits valueFine read
    · exact of_readArguments inherits restFine read

theorem of_readItems (inherits : Inherits fine proper) {expressions : List Expression} :
    ∀ {json : Json}, fine json → readItems json = some (.ok expressions) →
      ∀ argument ∈ expressions, proper argument
  | .array items, isFine, read =>
    of_readAll inherits (inherits.items isFine) (Option.some.inj read)
  | .object _, _, read | .null, _, read | .bool _, _, read | .string _, _, read | .int _, _, read
  | .float _, _, read => by cases read

theorem of_readAll (inherits : Inherits fine proper) {expressions : List Expression} :
    ∀ {items : List Json}, (∀ item ∈ items, fine item) → readAll items = .ok expressions →
      ∀ argument ∈ expressions, proper argument
  | [], _, read => by
    cases read
    simp
  | item :: rest, isFine, read => by
    obtain ⟨itemFine, restFine⟩ := List.forall_mem_cons.1 isFine
    obtain ⟨first, readFirst, read⟩ := bind_eq_ok_iff.1 read
    obtain ⟨others, readOthers, read⟩ := bind_eq_ok_iff.1 read
    cases read
    exact List.forall_mem_cons.2
      ⟨of_ofJson inherits itemFine readFirst, of_readAll inherits restFine readOthers⟩

end

end Inherits

theorem inherits_named : Inherits (fun _ => True) Named where
  items _ _ _ := trivial
  members _ _ _ := trivial
  literal _ _ := trivial
  field := id
  node := id
  not := id
  binary left right := ⟨left, right⟩

/-- An expression that was read names all its fields and nodes. -/
theorem named_of_ofJson {json : Json} {expression : Expression} (read : ofJson json = .ok expression) :
    expression.Named :=
  inherits_named.of_ofJson trivial read

end Expression

end DecisionFlow
