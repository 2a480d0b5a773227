import DecisionFlow.Proofs.Compilation.Kind

/-!
# What the readers of the built-in kinds guarantee

A node that a built-in reader makes is one of nine, each made of what was read from certain
parameters (`NodeReader.Yields`). What the readers guarantee is shown by going through these cases:
whatever name a built-in kind is known by, what its reader accepts can be written and read again,
except for a lookup of a column without a name (`NodeReader.regular_of_read`).
-/

set_option autoImplicit false

namespace DecisionFlow

/-- The readers of the built-in kinds. -/
def KindTable.builtInReaders : List NodeReader :=
  (KindTable.builtIn ++ KindTable.alternates).map Prod.snd

namespace NodeReader

variable {node : NodeDocument} {kind : NodeKind Unit}

/-- A node that is made of the parameters of a document's node. -/
inductive Yields (node : NodeDocument) : NodeKind Unit → Prop where
  | start : Yields node .start
  | input {field : String} (present : field ≠ "") : Yields node (.input field)
  | conditional {predicate : Expression}
      (isPredicate : node.requiredExpression "predicate" = .ok predicate) :
      Yields node (.conditional predicate)
  | arithmetic {expression : Expression}
      (isExpression : node.requiredExpression "expression" = .ok expression) :
      Yields node (.arithmetic expression none)
  | round {expression : Expression} {places : Int} (isPrecision : precision node = .ok places)
      (isExpression : node.requiredExpression "expression" = .ok expression) :
      Yields node (.arithmetic expression (some places))
  | stringTransform {transform : StringTransform} {source : Expression}
      (isSource : node.requiredExpression "source" = .ok source) :
      Yields node (.stringTransform transform source)
  | tableLookup {lookup : TableLookup} (isKeys : lookupKeys node = .ok lookup.keys)
      (keyed : lookup.keys ≠ []) (isTable : lookupTable node = .ok lookup.table)
      (columns : ∀ column ∈ lookup.keys.map Prod.fst ++ [lookup.target] ++ lookup.extraTargets,
        column ∈ lookup.table.columns) :
      Yields node (.tableLookup lookup)
  | subflow {call : SubflowCall Unit} (isVersion : callVersion node = .ok call.version)
      (isInputs : node.namedExpressions "inputs" = .ok call.inputs) :
      Yields node (.subflowCall call)
  | output {spec : OutputSpec} (isOutput : node.requiredExpression "output" = .ok spec.output)
      (isMessage : node.optionalExpression "message" = .ok spec.message)
      (isExtras : node.namedExpressions "extras" = .ok spec.extras) :
      Yields node (.output spec)

/-! ## The readers one by one -/

theorem yields_start (read : start node = .ok kind) : Yields node kind := by
  cases read
  exact .start

theorem yields_input (read : input node = .ok kind) : Yields node kind := by
  obtain ⟨field, -, read⟩ := bind_eq_ok_iff.1 read
  split at read
  · cases read
  next present =>
    cases read
    exact .input (by simpa using present)

theorem yields_conditional (read : conditional node = .ok kind) : Yields node kind := by
  obtain ⟨predicate, isPredicate, read⟩ := bind_eq_ok_iff.1 read
  cases read
  exact .conditional isPredicate

theorem yields_arithmetic (read : arithmetic node = .ok kind) : Yields node kind := by
  obtain ⟨expression, isExpression, read⟩ := bind_eq_ok_iff.1 read
  cases read
  exact .arithmetic isExpression

theorem yields_round (read : round node = .ok kind) : Yields node kind := by
  obtain ⟨places, isPrecision, read⟩ := bind_eq_ok_iff.1 read
  obtain ⟨expression, isExpression, read⟩ := bind_eq_ok_iff.1 read
  cases read
  exact .round isPrecision isExpression

theorem yields_stringTransform (read : stringTransform node = .ok kind) : Yields node kind := by
  obtain ⟨name, -, read⟩ := bind_eq_ok_iff.1 read
  split at read
  · cases read
  · obtain ⟨source, isSource, read⟩ := bind_eq_ok_iff.1 read
    cases read
    exact .stringTransform isSource

theorem yields_lowercase (read : lowercase node = .ok kind) : Yields node kind := by
  obtain ⟨source, isSource, read⟩ := bind_eq_ok_iff.1 read
  cases read
  exact .stringTransform isSource

theorem yields_tableLookup (read : tableLookup node = .ok kind) : Yields node kind := by
  obtain ⟨keys, isKeys, read⟩ := bind_eq_ok_iff.1 read
  split at read
  · cases read
  next present =>
    obtain ⟨target, -, read⟩ := bind_eq_ok_iff.1 read
    obtain ⟨extraTargets, -, read⟩ := bind_eq_ok_iff.1 read
    obtain ⟨table, isTable, read⟩ := bind_eq_ok_iff.1 read
    obtain ⟨_, checked, read⟩ := bind_eq_ok_iff.1 read
    cases read
    exact .tableLookup isKeys (by simpa using present) isTable
      (requireColumns_eq_ok_iff.1 (mapError_eq_ok_iff.1 checked))

theorem yields_subflow (read : subflow node = .ok kind) : Yields node kind := by
  obtain ⟨flow, -, read⟩ := bind_eq_ok_iff.1 read
  obtain ⟨version, isVersion, read⟩ := bind_eq_ok_iff.1 read
  obtain ⟨inputs, isInputs, read⟩ := bind_eq_ok_iff.1 read
  cases read
  exact .subflow isVersion isInputs

theorem yields_output (read : output node = .ok kind) : Yields node kind := by
  obtain ⟨result, isOutput, read⟩ := bind_eq_ok_iff.1 read
  obtain ⟨message, isMessage, read⟩ := bind_eq_ok_iff.1 read
  obtain ⟨extras, isExtras, read⟩ := bind_eq_ok_iff.1 read
  cases read
  exact .output isOutput isMessage isExtras

/-- What a built-in reader makes is made of the parameters. -/
theorem yields_of_read {reader : NodeReader} (builtIn : reader ∈ KindTable.builtInReaders)
    (read : reader node = .ok kind) : Yields node kind := by
  simp only [KindTable.builtInReaders, KindTable.builtIn, KindTable.alternates, List.cons_append,
    List.nil_append, List.map_cons, List.map_nil, List.mem_cons, List.not_mem_nil, or_false] at builtIn
  rcases builtIn with rfl | rfl | rfl | rfl | rfl | rfl | rfl | rfl | rfl | rfl | rfl | rfl | rfl |
    rfl | rfl
  · exact yields_start read
  · exact yields_input read
  · exact yields_conditional read
  · exact yields_arithmetic read
  · exact yields_round read
  · exact yields_stringTransform read
  · exact yields_lowercase read
  · exact yields_tableLookup read
  · exact yields_subflow read
  · exact yields_output read
  · exact yields_conditional read
  · exact yields_output read
  · exact yields_subflow read
  · exact yields_tableLookup read
  · exact yields_arithmetic read

/-! ## What is read can be written -/

theorem inRange_of_precision {places : Int} (read : precision node = .ok places) :
    -15 ≤ places ∧ places ≤ 15 := by
  unfold precision at read
  split at read
  · cases read
    decide
  · split at read
    next inRange =>
      cases read
      exact inRange
    next => cases read
  · cases read

theorem rereads_of_callVersion {request : VersionRequest} (read : callVersion node = .ok request) :
    request.Rereads := by
  unfold callVersion at read
  split at read
  · cases read
    exact VersionRequest.rereads_any
  · cases read
    exact VersionRequest.rereads_ofText _
  next value _ =>
    cases read
    obtain ⟨solid, present⟩ := toString_int_solid value
    exact VersionRequest.rereads_exact_of_solid solid present
  next value _ =>
    cases read
    obtain ⟨solid, present⟩ := renderFloat_solid value
    exact VersionRequest.rereads_exact_of_solid solid present
  · cases read

/-- The keys of a lookup are listed columns in order, each with the field of the same name, or the
expressions of an object. -/
theorem read_of_lookupKeys {keys : List (String × Expression)}
    (read : lookupKeys node = .ok keys) :
    (∃ columns : List String, node.parameter? "keys" = some (.array (columns.map .string)) ∧
      keys = (columns.mergeSort fun column column' => decide (column ≤ column')).map
        fun column => (column, .field column)) ∨
      ∃ members, node.parameter? "keys" = some (.object members) ∧
        node.expressionsOf members = .ok keys := by
  obtain ⟨json, present, read⟩ := bind_eq_ok_iff.1 read
  have isKeys := NodeDocument.parameter?_of_required present
  split at read
  · obtain ⟨columns, isTexts, read⟩ := bind_eq_ok_iff.1 read
    cases read
    rw [NodeDocument.eq_of_textsOf isTexts] at isKeys
    exact .inl ⟨columns, isKeys, rfl⟩
  · exact .inr ⟨_, isKeys, read⟩
  · cases read

/-- A table is made of comma separated text, or of rows. -/
theorem read_of_lookupTable {table : DecisionTable} (read : lookupTable node = .ok table) :
    (∃ text, DecisionTable.ofCsvText text = .ok table) ∨
      ∃ rows columns, ("rows", .array rows) ∈ node.parameters ∧
        DecisionTable.ofJsonRows columns rows = .ok table := by
  obtain ⟨text, -, read⟩ := bind_eq_ok_iff.1 read
  dsimp only at read
  split at read
  next text =>
    obtain ⟨outcome, same, read⟩ := bind_eq_ok_iff.1 read
    cases same
    exact .inl ⟨text, mapError_eq_ok_iff.1 read⟩
  next =>
    obtain ⟨json, present, read⟩ := bind_eq_ok_iff.1 read
    split at read
    next rows =>
      have isRows := NodeDocument.mem_of_required present
      split at read
      · obtain ⟨columns, -, read⟩ := bind_eq_ok_iff.1 read
        obtain ⟨outcome, same, read⟩ := bind_eq_ok_iff.1 read
        cases same
        exact .inr ⟨rows, _, isRows, mapError_eq_ok_iff.1 read⟩
      · obtain ⟨outcome, same, read⟩ := bind_eq_ok_iff.1 read
        cases same
        exact .inr ⟨rows, _, isRows, mapError_eq_ok_iff.1 read⟩
    next => cases read

theorem wellShaped_of_lookupTable {table : DecisionTable} (read : lookupTable node = .ok table) :
    table.WellShaped := by
  rcases read_of_lookupTable read with ⟨text, isTable⟩ | ⟨rows, columns, -, isTable⟩
  · exact DecisionTable.wellShaped_of_ofCsv isTable
  · exact DecisionTable.wellShaped_of_ofJsonRows isTable

theorem Yields.valid (yields : Yields node kind) : kind.Valid := by
  cases yields with
  | input present => exact present
  | round isPrecision _ => exact inRange_of_precision isPrecision
  | tableLookup _ keyed isTable columns => exact ⟨keyed, wellShaped_of_lookupTable isTable, columns⟩
  | subflow isVersion _ => exact rereads_of_callVersion isVersion
  | start | conditional | arithmetic | stringTransform | output => trivial

/-! ## Expressions that are read -/

section

variable {fine : Json → Prop} {proper : Expression → Prop}
  (inherits : Expression.Inherits fine proper)
  (isFine : ∀ parameter ∈ node.parameters, fine parameter.2)
include inherits isFine

theorem proper_or_fields_of_lookupKeys {keys : List (String × Expression)}
    (read : lookupKeys node = .ok keys) :
    (∀ entry ∈ keys, proper entry.2) ∨ ∀ entry ∈ keys, entry.2 = .field entry.1 := by
  rcases read_of_lookupKeys read with ⟨columns, -, rfl⟩ | ⟨members, present, isRead⟩
  · exact .inr (List.forall_mem_map.2 fun _ _ => rfl)
  · have found := Entries.mem_of_find? present
    exact .inl
      (NodeDocument.proper_of_expressionsOf inherits (inherits.members (isFine _ found)) isRead)

/-- What parameters inherit to expressions holds of all expressions of a node, but for columns that
are looked up with fields. -/
theorem Yields.proper_or_fields (yields : Yields node kind) :
    (∀ expression ∈ kind.expressions, proper expression) ∨ kind.LooksUpFields := by
  cases yields with
  | start | input => exact .inl fun _ member => by cases member
  | conditional isRead | arithmetic isRead | round _ isRead | stringTransform isRead =>
      exact .inl (List.forall_mem_singleton.2
        (NodeDocument.proper_of_requiredExpression inherits isFine isRead))
  | tableLookup isKeys =>
      rcases proper_or_fields_of_lookupKeys inherits isFine isKeys with proper | fields
      · exact .inl (List.forall_mem_map.2 proper)
      · exact .inr ⟨_, rfl, fields⟩
  | subflow _ isInputs =>
      exact .inl (List.forall_mem_map.2
        (NodeDocument.proper_of_namedExpressions inherits isFine isInputs))
  | output isOutput isMessage isExtras =>
      refine .inl fun expression member => ?_
      simp only [NodeKind.expressions, List.cons_append, List.nil_append, List.mem_cons,
        List.mem_append, Option.mem_toList, List.mem_map] at member
      rcases member with rfl | isPresent | ⟨entry, isEntry, rfl⟩
      · exact NodeDocument.proper_of_requiredExpression inherits isFine isOutput
      · rw [isPresent] at isMessage
        exact NodeDocument.proper_of_optionalExpression inherits isFine isMessage
      · exact NodeDocument.proper_of_namedExpressions inherits isFine isExtras entry isEntry

end

/-- What a reader guarantees about a node. -/
structure Regular (kind : NodeKind Unit) : Prop where
  valid : kind.Valid
  named : kind.Named ∨ kind.LooksUpFields

theorem Yields.regular (yields : Yields node kind) : Regular kind :=
  ⟨yields.valid, yields.proper_or_fields Expression.inherits_named fun _ _ => trivial⟩

/-- **What built-in readers accept can be written and read again**, but for columns without a
name. -/
theorem regular_of_read {reader : NodeReader} (builtIn : reader ∈ KindTable.builtInReaders)
    (read : reader node = .ok kind) : Regular kind :=
  (yields_of_read builtIn read).regular

end NodeReader

/-! ## Further names of built-in kinds -/

namespace KindTable

theorem mem_of_lookup {readers : List (String × NodeReader)} {name : String} {reader : NodeReader}
    (found : readers.lookup name = some reader) : reader ∈ readers.map Prod.snd := by
  obtain ⟨before, after, rfl, -⟩ := List.lookup_eq_some_iff.1 found
  simp

/-- Names of one's own do not bring in other readers. -/
theorem builtIn_of_addAliases {kinds : KindTable}
    (known : ∀ name reader, kinds.find? name = some reader → reader ∈ builtInReaders)
    (aliases : List (String × String)) (name : String) (reader : NodeReader)
    (found : (kinds.addAliases aliases).1.find? name = some reader) : reader ∈ builtInReaders := by
  induction aliases generalizing kinds with
  | nil => exact known name reader found
  | cons entry rest ih =>
      obtain ⟨given, kind⟩ := entry
      refine ih ?_ found
      intro other known' isKnown
      split at isKnown
      next builtIn =>
        simp only [find?, add, List.lookup_cons] at isKnown
        split at isKnown
        · cases isKnown
          rw [builtInReaders, List.map_append]
          exact List.mem_append_left _ (mem_of_lookup builtIn)
        · exact known _ _ isKnown
      · exact known _ _ isKnown

theorem builtIn_of_standard (name : String) (reader : NodeReader)
    (found : standard.find? name = some reader) : reader ∈ builtInReaders :=
  mem_of_lookup found

end KindTable

end DecisionFlow
