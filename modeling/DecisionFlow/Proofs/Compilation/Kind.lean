import DecisionFlow.Compilation.Kind
import DecisionFlow.Graph.Export
import DecisionFlow.Proofs.Expression.Json
import DecisionFlow.Proofs.Graph.Calls
import DecisionFlow.Proofs.Table.Json
import DecisionFlow.Proofs.Version

/-!
# Nodes written and read again

The parameters that a node is written with are read by the reader of its kind, and yield the same
node up to the JSON forms of its literals. This needs that the node could have been read in the
first place, and that its expressions name the fields and nodes that they refer to.

The readers of the built-in kinds guarantee the first. They guarantee the second as well, except for
a table lookup whose keys are given as an array of columns: a column without a name is looked up
with a field without a name, and such a field is written in a way that cannot be read.
-/

set_option autoImplicit false

namespace DecisionFlow

/-! ## Named expressions -/

namespace Expression

/-- Named expressions as they are read from their JSON form: of several expressions with one name
the last is kept, and names are in order. -/
def rereadAll (expressions : List (String × Expression)) : List (String × Expression) :=
  (Entries.ofList expressions).map fun entry => (entry.1, entry.2.reread)

theorem namedToJson_eq (expressions : List (String × Expression)) :
    namedToJson expressions =
      .object ((Entries.ofList expressions).map fun entry => (entry.1, entry.2.toJson)) := by
  rw [namedToJson, Json.ofMembers, Entries.ofList_map]

theorem mem_of_mem_rereadAll {expressions : List (String × Expression)}
    {entry : String × Expression} (member : entry ∈ rereadAll expressions) :
    ∃ original ∈ expressions, entry = (original.1, original.2.reread) := by
  obtain ⟨original, isEntry, rfl⟩ := List.mem_map.1 member
  exact ⟨original, Entries.mem_of_mem_ofList isEntry, rfl⟩

end Expression

namespace NodeDocument

variable {node : NodeDocument}

theorem expressionOf_toJson {expression : Expression} (named : expression.Named) :
    node.expressionOf expression.toJson = .ok expression.reread := by
  rw [expressionOf, Expression.ofJson_toJson named]
  rfl

theorem expressionsOf_map_toJson {expressions : List (String × Expression)}
    (named : ∀ entry ∈ expressions, entry.2.Named) :
    node.expressionsOf (expressions.map fun entry => (entry.1, entry.2.toJson)) =
      .ok (expressions.map fun entry => (entry.1, entry.2.reread)) := by
  induction expressions with
  | nil => rfl
  | cons entry rest ih =>
      obtain ⟨first, others⟩ := List.forall_mem_cons.1 named
      simp only [List.map_cons, expressionsOf, expressionOf_toJson first, ih others]
      rfl

/-- Every member is read. -/
theorem exists_expression_of_mem {members : List (String × Json)}
    {expressions : List (String × Expression)}
    (read : node.expressionsOf members = .ok expressions) {member : String × Json}
    (isMember : member ∈ members) :
    ∃ expression, node.expressionOf member.2 = .ok expression := by
  induction members generalizing expressions with
  | nil => cases isMember
  | cons first rest ih =>
      obtain ⟨expression, readFirst, read⟩ := bind_eq_ok_iff.1 read
      obtain ⟨others, readOthers, read⟩ := bind_eq_ok_iff.1 read
      rcases List.mem_cons.1 isMember with rfl | later
      · exact ⟨expression, readFirst⟩
      · exact ih readOthers later

/-- An optional parameter that counts is a parameter. -/
theorem parameter?_of_optional? {name : String} {json : Json}
    (present : node.optional? name = some json) : node.parameter? name = some json := by
  unfold optional? at present
  split at present
  · cases present
  · exact present

theorem parameter?_of_required {name : String} {json : Json}
    (present : node.required name = .ok json) : node.parameter? name = some json := by
  unfold required at present
  split at present
  next found =>
    cases present
    exact found
  next => cases present

theorem mem_of_required {name : String} {json : Json} (present : node.required name = .ok json) :
    (name, json) ∈ node.parameters :=
  Entries.mem_of_find? (parameter?_of_required present)

theorem eq_of_textsOf {name : String} {items : List Json} {texts : List String}
    (read : node.textsOf name items = .ok texts) : items = texts.map .string := by
  induction items generalizing texts with
  | nil =>
      cases read
      rfl
  | cons item rest ih =>
      unfold textsOf at read
      split at read
      · contradiction
      next same =>
        cases same
        obtain ⟨others, isOthers, read⟩ := bind_eq_ok_iff.1 read
        cases read
        rw [List.map_cons, ih isOthers]
      · cases read

section

variable {fine : Json → Prop} {proper : Expression → Prop}
  (inherits : Expression.Inherits fine proper)
include inherits

theorem proper_of_expressionOf {json : Json} {expression : Expression} (isFine : fine json)
    (read : node.expressionOf json = .ok expression) : proper expression :=
  inherits.of_ofJson isFine (mapError_eq_ok_iff.1 read)

theorem proper_of_expressionsOf {members : List (String × Json)}
    {expressions : List (String × Expression)} (isFine : ∀ member ∈ members, fine member.2)
    (read : node.expressionsOf members = .ok expressions) :
    ∀ entry ∈ expressions, proper entry.2 := by
  induction members generalizing expressions with
  | nil =>
      cases read
      simp
  | cons member rest ih =>
      obtain ⟨memberFine, restFine⟩ := List.forall_mem_cons.1 isFine
      obtain ⟨expression, readFirst, read⟩ := bind_eq_ok_iff.1 read
      obtain ⟨others, readOthers, read⟩ := bind_eq_ok_iff.1 read
      cases read
      exact List.forall_mem_cons.2
        ⟨proper_of_expressionOf inherits memberFine readFirst, ih restFine readOthers⟩

variable (isFine : ∀ parameter ∈ node.parameters, fine parameter.2)
include isFine

theorem proper_of_requiredExpression {name : String} {expression : Expression}
    (read : node.requiredExpression name = .ok expression) : proper expression := by
  obtain ⟨json, present, read⟩ := bind_eq_ok_iff.1 read
  exact proper_of_expressionOf inherits (isFine _ (mem_of_required present)) read

theorem proper_of_optionalExpression {name : String} {expression : Expression}
    (read : node.optionalExpression name = .ok (some expression)) : proper expression := by
  unfold optionalExpression at read
  split at read
  · cases read
  next json present =>
    obtain ⟨found, isRead, same⟩ :=
      map_eq_ok_iff.1 (show some <$> node.expressionOf json = .ok (some expression) from read)
    cases same
    exact proper_of_expressionOf inherits
      (isFine _ (Entries.mem_of_find? (parameter?_of_optional? present))) isRead

theorem proper_of_namedExpressions {name : String} {expressions : List (String × Expression)}
    (read : node.namedExpressions name = .ok expressions) :
    ∀ entry ∈ expressions, proper entry.2 := by
  unfold namedExpressions at read
  split at read
  · cases read
    simp
  next members present =>
    have found := Entries.mem_of_find? (parameter?_of_optional? present)
    exact proper_of_expressionsOf inherits (inherits.members (isFine _ found)) read
  · cases read

end

end NodeDocument

/-! ## Nodes that can be read -/

/-- A lookup by at least one key, in a table that has all columns it asks for. -/
structure TableLookup.Valid (lookup : TableLookup) : Prop where
  keyed : lookup.keys ≠ []
  shaped : lookup.table.WellShaped
  columns : ∀ column ∈ lookup.keys.map Prod.fst ++ [lookup.target] ++ lookup.extraTargets,
    column ∈ lookup.table.columns

namespace NodeKind

variable {callee : Type}

/-- The node could have been read, apart from its expressions. -/
def Valid : NodeKind callee → Prop
  | .input field => field ≠ ""
  | .arithmetic _ (some places) => -15 ≤ places ∧ places ≤ 15
  | .tableLookup lookup => lookup.Valid
  | .subflowCall call => call.version.Rereads
  | _ => True

/-- The expressions of the node name all fields and nodes that they refer to. -/
def Named (kind : NodeKind callee) : Prop :=
  ∀ expression ∈ kind.expressions, expression.Named

/-- A lookup of columns, each with the field of the same name. -/
def LooksUpFields (kind : NodeKind callee) : Prop :=
  ∃ lookup, kind = .tableLookup lookup ∧ ∀ entry ∈ lookup.keys, entry.2 = .field entry.1

/-- The node as it is read from its parameters. -/
def reread : NodeKind callee → NodeKind callee
  | .start => .start
  | .input field => .input field
  | .conditional predicate => .conditional predicate.reread
  | .arithmetic expression rounding => .arithmetic expression.reread rounding
  | .stringTransform transform source => .stringTransform transform source.reread
  | .tableLookup lookup => .tableLookup { lookup with
      keys := Expression.rereadAll lookup.keys
      table := lookup.table.reread }
  | .subflowCall call => .subflowCall { call with inputs := Expression.rereadAll call.inputs }
  | .output spec => .output {
      output := spec.output.reread
      message := spec.message.map Expression.reread
      extras := Expression.rereadAll spec.extras }

/-- A node is written in the same way, whatever its callee. -/
@[simp]
theorem parameters_unresolved (kind : NodeKind callee) :
    kind.unresolved.parameters = kind.parameters := by
  cases kind <;> rfl

end NodeKind

/-- The document of a node with a given id. -/
def NodeKind.document (id : String) (kind : NodeKind Unit) : NodeDocument :=
  { id, kind := kind.name, parameters := Entries.ofList kind.parameters }

namespace NodeReader

variable {id : String} {node : NodeDocument} {kind : NodeKind Unit}

/-! ## Reading what was written -/

theorem parameter?_document (id : String) (kind : NodeKind Unit) (name : String) :
    (kind.document id).parameter? name = Entries.find? kind.parameters.reverse name := by
  rw [NodeDocument.parameter?, NodeKind.document, Entries.find?_ofList]

theorem requiredExpression_document {name : String} {expression : Expression}
    (written : Entries.find? kind.parameters.reverse name = some expression.toJson)
    (named : expression.Named) :
    (kind.document id).requiredExpression name = .ok expression.reread := by
  simp only [NodeDocument.requiredExpression, NodeDocument.required, parameter?_document, written]
  exact NodeDocument.expressionOf_toJson named

theorem requiredText_document {name text : String}
    (written : Entries.find? kind.parameters.reverse name = some (.string text)) :
    (kind.document id).requiredText name = .ok text := by
  simp only [NodeDocument.requiredText, NodeDocument.required, parameter?_document, written]
  rfl

theorem namedExpressions_document {name : String} {expressions : List (String × Expression)}
    (written : Entries.find? kind.parameters.reverse name =
      some (Expression.namedToJson expressions))
    (named : ∀ entry ∈ expressions, entry.2.Named) :
    (kind.document id).namedExpressions name = .ok (Expression.rereadAll expressions) := by
  rw [Expression.namedToJson_eq] at written
  simp only [NodeDocument.namedExpressions, NodeDocument.optional?, parameter?_document, written]
  exact NodeDocument.expressionsOf_map_toJson fun entry member =>
    named entry (Entries.mem_of_mem_ofList member)

theorem reads_input {field : String} (present : field ≠ "") :
    input ((NodeKind.input field).document id) = .ok (.input field) := by
  have text : ((NodeKind.input field).document id).requiredText "field" = .ok field :=
    requiredText_document (by simp [NodeKind.parameters, Entries.find?_cons])
  simp [input, text, present, bind, Except.bind, pure, Except.pure]

theorem reads_conditional {predicate : Expression} (named : predicate.Named) :
    conditional ((NodeKind.conditional predicate).document id) =
      .ok (.conditional predicate.reread) := by
  have read : ((NodeKind.conditional predicate).document id).requiredExpression "predicate" =
      .ok predicate.reread :=
    requiredExpression_document (by simp [NodeKind.parameters, Entries.find?_cons]) named
  rw [conditional, read]
  rfl

theorem reads_arithmetic {expression : Expression} (named : expression.Named) :
    arithmetic ((NodeKind.arithmetic expression none).document id) =
      .ok (.arithmetic expression.reread none) := by
  have read : ((NodeKind.arithmetic expression none).document id).requiredExpression
      "expression" = .ok expression.reread :=
    requiredExpression_document (by simp [NodeKind.parameters, Entries.find?_cons]) named
  rw [arithmetic, read]
  rfl

theorem reads_round {expression : Expression} {places : Int} (inRange : -15 ≤ places ∧ places ≤ 15)
    (named : expression.Named) :
    round ((NodeKind.arithmetic expression (some places)).document id) =
      .ok (.arithmetic expression.reread (some places)) := by
  have read : ((NodeKind.arithmetic expression (some places)).document id).requiredExpression
      "expression" = .ok expression.reread :=
    requiredExpression_document (by simp [NodeKind.parameters, Entries.find?_cons]) named
  have rounding : precision ((NodeKind.arithmetic expression (some places)).document id) =
      .ok places := by
    simp [precision, NodeDocument.optional?, parameter?_document, NodeKind.parameters,
      Entries.find?_cons, inRange]
  rw [round, rounding]
  simp only [bind, Except.bind, read]
  rfl

theorem ofName?_name (transform : StringTransform) :
    StringTransform.ofName? transform.name = some transform := by
  cases transform <;> rfl

theorem reads_stringTransform {transform : StringTransform} {source : Expression}
    (named : source.Named) :
    stringTransform ((NodeKind.stringTransform transform source).document id) =
      .ok (.stringTransform transform source.reread) := by
  have text : ((NodeKind.stringTransform transform source).document id).requiredText "transform" =
      .ok transform.name :=
    requiredText_document (by simp [NodeKind.parameters, Entries.find?_cons])
  have read : ((NodeKind.stringTransform transform source).document id).requiredExpression
      "source" = .ok source.reread :=
    requiredExpression_document (by simp [NodeKind.parameters, Entries.find?_cons]) named
  rw [stringTransform, text]
  simp only [bind, Except.bind, ofName?_name, read]
  rfl

theorem reads_subflow {call : SubflowCall Unit} (rereads : call.version.Rereads)
    (named : ∀ entry ∈ call.inputs, entry.2.Named) :
    subflow ((NodeKind.subflowCall call).document id) =
      .ok (.subflowCall { call with inputs := Expression.rereadAll call.inputs }) := by
  have text : ((NodeKind.subflowCall call).document id).requiredText "flow" = .ok call.flow :=
    requiredText_document (by simp [NodeKind.parameters, Entries.find?_cons])
  have version : callVersion ((NodeKind.subflowCall call).document id) = .ok call.version := by
    simp only [callVersion, NodeDocument.optional?, parameter?_document, NodeKind.parameters,
      Entries.find?_cons, List.reverse_cons, List.reverse_nil, List.nil_append, List.cons_append,
      String.reduceEq, ↓reduceIte]
    exact congrArg _ rereads
  have inputs : ((NodeKind.subflowCall call).document id).namedExpressions "inputs" =
      .ok (Expression.rereadAll call.inputs) :=
    namedExpressions_document (by simp [NodeKind.parameters, Entries.find?_cons]) named
  rw [subflow, text]
  simp only [bind, Except.bind, version, inputs]
  rfl

theorem toJson_ne_null (expression : Expression) : expression.toJson ≠ .null := by
  cases expression <;> simp [Expression.toJson, Json.ofMembers]

theorem optionalExpression_document {name : String} {expression : Expression}
    (written : Entries.find? kind.parameters.reverse name = some expression.toJson)
    (named : expression.Named) :
    (kind.document id).optionalExpression name = .ok (some expression.reread) := by
  have present : (kind.document id).optional? name = some expression.toJson := by
    simp only [NodeDocument.optional?, parameter?_document, written]
    split
    next isNull => exact absurd (Option.some.inj isNull) (toJson_ne_null expression)
    next => rfl
  simp only [NodeDocument.optionalExpression, present, NodeDocument.expressionOf_toJson named]
  rfl

theorem reads_output {spec : OutputSpec}
    (named : (NodeKind.output spec : NodeKind Unit).Named) :
    output ((NodeKind.output spec).document id) =
      .ok (.output ⟨spec.output.reread, spec.message.map Expression.reread,
        Expression.rereadAll spec.extras⟩) := by
  obtain ⟨result, message, extras⟩ := spec
  simp only [NodeKind.Named, NodeKind.expressions, List.cons_append, List.nil_append,
    List.forall_mem_cons, List.forall_mem_append, Option.mem_toList,
    List.forall_mem_map] at named
  obtain ⟨resultNamed, messageNamed, extrasNamed⟩ := named
  have readResult : ((NodeKind.output ⟨result, message, extras⟩).document id).requiredExpression
      "output" = .ok result.reread := by
    refine requiredExpression_document ?_ resultNamed
    cases message <;> cases extras <;> simp [NodeKind.parameters, Entries.find?_cons]
  have readMessage : ((NodeKind.output ⟨result, message, extras⟩).document id).optionalExpression
      "message" = .ok (message.map Expression.reread) := by
    cases message with
    | none =>
        cases extras <;>
          simp [NodeDocument.optionalExpression, NodeDocument.optional?, parameter?_document,
            NodeKind.parameters, Entries.find?_cons]
    | some message =>
        refine optionalExpression_document ?_ (messageNamed message rfl)
        cases extras <;> simp [NodeKind.parameters, Entries.find?_cons]
  have readExtras : ((NodeKind.output ⟨result, message, extras⟩).document id).namedExpressions
      "extras" = .ok (Expression.rereadAll extras) := by
    cases extras with
    | nil =>
        cases message <;>
          simp [NodeDocument.namedExpressions, NodeDocument.optional?, parameter?_document,
            NodeKind.parameters, Entries.find?_cons, Expression.rereadAll, Entries.ofList]
    | cons entry rest =>
        refine namedExpressions_document ?_ extrasNamed
        cases message <;> simp [NodeKind.parameters, Entries.find?_cons]
  rw [output, readResult]
  simp only [bind, Except.bind, readMessage, readExtras]
  rfl

/-! ## Lookups -/

theorem requireColumns_eq_ok_iff {table : DecisionTable} {columns : List String} :
    table.requireColumns columns = .ok () ↔ ∀ column ∈ columns, column ∈ table.columns := by
  induction columns with
  | nil => simp [DecisionTable.requireColumns]
  | cons column rest ih =>
      have known : (table.columnIndex? column).isSome = true ↔ column ∈ table.columns := by
        simp [DecisionTable.columnIndex?]
      by_cases member : column ∈ table.columns
      · simp [DecisionTable.requireColumns, known.2 member, ih, member]
      · simp [DecisionTable.requireColumns, mt known.1 member, member]

theorem textsOf_map_string {name : String} (texts : List String) :
    node.textsOf name (texts.map .string) = .ok texts := by
  induction texts with
  | nil => rfl
  | cons text rest ih =>
      simp only [List.map_cons, NodeDocument.textsOf, ih]
      rfl

/-- Keys are written as an object. -/
theorem find?_keys_parameters (lookup : TableLookup) :
    Entries.find? (NodeKind.tableLookup lookup : NodeKind Unit).parameters.reverse "keys" =
      some (.object ((Entries.ofList lookup.keys).map fun entry => (entry.1, entry.2.toJson))) := by
  rw [← Expression.namedToJson_eq]
  by_cases extra : lookup.extraTargets = [] <;>
    simp [NodeKind.parameters, Entries.find?_cons, extra]

theorem lookupKeys_document {lookup : TableLookup}
    (named : ∀ entry ∈ lookup.keys, entry.2.Named) :
    lookupKeys ((NodeKind.tableLookup lookup).document id) =
      .ok (Expression.rereadAll lookup.keys) := by
  simp only [lookupKeys, NodeDocument.required, parameter?_document, find?_keys_parameters]
  exact NodeDocument.expressionsOf_map_toJson fun entry member =>
    named entry (Entries.mem_of_mem_ofList member)

theorem texts_document (lookup : TableLookup) :
    ((NodeKind.tableLookup lookup).document id).texts "extra_targets" =
      .ok lookup.extraTargets := by
  obtain ⟨keys, target, extraTargets, table⟩ := lookup
  simp only [NodeDocument.texts, NodeDocument.optional?, parameter?_document]
  cases extraTargets with
  | nil => simp [NodeKind.parameters, Entries.find?_cons]
  | cons first rest =>
      simpa [NodeKind.parameters, Entries.find?_cons] using textsOf_map_string (first :: rest)

theorem lookupTable_document {lookup : TableLookup} (shaped : lookup.table.WellShaped) :
    lookupTable ((NodeKind.tableLookup lookup).document id) = .ok lookup.table.reread := by
  have noText : ((NodeKind.tableLookup lookup).document id).optionalText "csv" = .ok none := by
    simp only [NodeDocument.optionalText, NodeDocument.optional?, parameter?_document]
    by_cases extra : lookup.extraTargets = [] <;>
      simp [NodeKind.parameters, Entries.find?_cons, extra]
  have rows : ((NodeKind.tableLookup lookup).document id).required "rows" =
      .ok lookup.table.rowsToJson := by
    simp only [NodeDocument.required, parameter?_document]
    by_cases extra : lookup.extraTargets = [] <;>
      simp [NodeKind.parameters, Entries.find?_cons, extra]
  have columns : ((NodeKind.tableLookup lookup).document id).parameter? "columns" =
      some lookup.table.columnsToJson := by
    rw [parameter?_document]
    by_cases extra : lookup.extraTargets = [] <;>
      simp [NodeKind.parameters, Entries.find?_cons, extra]
  simp only [lookupTable, noText, rows, columns, DecisionTable.rowsToJson,
    DecisionTable.columnsToJson, bind, Except.bind, textsOf_map_string, pure, Except.pure,
    DecisionTable.ofJsonRows_toJson shaped]
  rfl

theorem reads_tableLookup {lookup : TableLookup} (valid : lookup.Valid)
    (named : ∀ entry ∈ lookup.keys, entry.2.Named) :
    tableLookup ((NodeKind.tableLookup lookup).document id) =
      .ok (.tableLookup { lookup with
        keys := Expression.rereadAll lookup.keys
        table := lookup.table.reread }) := by
  have target : ((NodeKind.tableLookup lookup).document id).requiredText "target" =
      .ok lookup.target := by
    apply requiredText_document
    by_cases extra : lookup.extraTargets = [] <;>
      simp [NodeKind.parameters, Entries.find?_cons, extra]
  have keyed : (Expression.rereadAll lookup.keys).isEmpty = false := by
    simpa [Expression.rereadAll] using Entries.ofList_ne_nil valid.keyed
  have columns : lookup.table.reread.requireColumns
      ((Expression.rereadAll lookup.keys).map Prod.fst ++ [lookup.target] ++
        lookup.extraTargets) = .ok () := by
    apply requireColumns_eq_ok_iff.2
    intro column member
    apply valid.columns column
    simp only [List.mem_append] at member ⊢
    rcases member with (key | isTarget) | extra
    · refine .inl (.inl (Entries.mem_keys_ofList.1 ?_))
      simpa [Expression.rereadAll] using key
    · exact .inl (.inr isTarget)
    · exact .inr extra
  simp only [tableLookup, lookupKeys_document named, bind, Except.bind, keyed, target, texts_document,
    lookupTable_document valid.shaped, columns]
  rfl

/-- A column without a name is written in a way that cannot be read. -/
theorem named_of_lookupKeys_document {lookup : TableLookup}
    (fields : ∀ entry ∈ lookup.keys, entry.2 = .field entry.1)
    {keys : List (String × Expression)}
    (read : lookupKeys ((NodeKind.tableLookup lookup).document id) = .ok keys) :
    ∀ entry ∈ lookup.keys, entry.2.Named := by
  intro entry member
  rw [fields entry member]
  intro unnamed
  simp only [lookupKeys, NodeDocument.required, parameter?_document, find?_keys_parameters] at read
  obtain ⟨found, isFound, isKey⟩ := List.mem_map.1
    (Entries.mem_keys_ofList.2 (List.mem_map.2 ⟨entry, member, rfl⟩))
  obtain ⟨expression, isRead⟩ := NodeDocument.exists_expression_of_mem read
    (List.mem_map.2 ⟨found, isFound, rfl⟩)
  have isField := fields found (Entries.mem_of_mem_ofList isFound)
  rw [isKey, unnamed] at isField
  rw [isField] at isRead
  cases isRead

end NodeReader

/-! ## Built-in kinds -/

/-- The reader of the kind under which a node is written. -/
def NodeKind.reader : NodeKind Unit → NodeReader
  | .start => .start
  | .input _ => .input
  | .conditional _ => .conditional
  | .arithmetic _ none => .arithmetic
  | .arithmetic _ (some _) => .round
  | .stringTransform _ _ => .stringTransform
  | .tableLookup _ => .tableLookup
  | .subflowCall _ => .subflow
  | .output _ => .output

theorem KindTable.find?_name (kind : NodeKind Unit) :
    KindTable.standard.find? kind.name = some kind.reader := by
  cases kind with
  | arithmetic _ rounding => cases rounding <;> rfl
  | _ => rfl

/-- **Nodes are read as they were written.** -/
theorem NodeKind.reader_document {kind : NodeKind Unit} (valid : kind.Valid) (named : kind.Named)
    (id : String) : kind.reader (kind.document id) = .ok kind.reread := by
  cases kind with
  | start => rfl
  | input field => exact NodeReader.reads_input valid
  | conditional predicate => exact NodeReader.reads_conditional (named _ (List.mem_singleton_self _))
  | arithmetic expression rounding =>
      have expressionNamed := named _ (List.mem_singleton_self _)
      cases rounding with
      | none => exact NodeReader.reads_arithmetic expressionNamed
      | some places => exact NodeReader.reads_round valid expressionNamed
  | stringTransform transform source =>
      exact NodeReader.reads_stringTransform (named _ (List.mem_singleton_self _))
  | tableLookup lookup =>
      exact NodeReader.reads_tableLookup valid (List.forall_mem_map.1 named)
  | subflowCall call => exact NodeReader.reads_subflow valid (List.forall_mem_map.1 named)
  | output spec => exact NodeReader.reads_output named

/-- A node can be read as it was written only if its expressions name their fields and nodes. -/
theorem NodeKind.named_of_reader_document {kind again : NodeKind Unit} {id : String}
    (regular : kind.Named ∨ kind.LooksUpFields)
    (read : kind.reader (kind.document id) = .ok again) : kind.Named := by
  rcases regular with named | ⟨lookup, rfl, fields⟩
  · exact named
  · obtain ⟨keys, isRead, -⟩ := bind_eq_ok_iff.1 read
    exact List.forall_mem_map.2 (NodeReader.named_of_lookupKeys_document fields isRead)

end DecisionFlow
