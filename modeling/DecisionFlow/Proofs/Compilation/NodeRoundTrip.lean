import DecisionFlow.Proofs.Compilation.RoundTrip
import DecisionFlow.Proofs.Expression.RoundTrip
import DecisionFlow.Proofs.Table.RoundTrip

/-!
# Nodes that are read back equal

Every node that calls no flow is written such that its reader makes an equal node of it, with two
exceptions (`Compiler.nodeBeq_again_iff`). Both are lookups whose keys are listed as an array of
columns. A column that is listed twice is a key twice, but it is written as one member of an object
and comes back as one key. A column without a name is looked up with a field without a name, which
is written in a way that cannot be read.

What comes back is described in two steps. The reader of a kind makes the node anew but for the JSON
forms of its literals (`NodeKind.reread`), and that node is equal to the first one if numbers are
finite, names are in order and no name is listed twice. The readers of the built-in kinds guarantee
all of this but the last.
-/

set_option autoImplicit false

namespace DecisionFlow

open DecisionFlow.Graph (nodeDocument)

/-! ## Named expressions -/

namespace Expression

variable {expressions : List (String × Expression)}

theorem namedBeq_map_reread (finite : ∀ entry ∈ expressions, entry.2.IsFinite) :
    namedBeq (expressions.map fun entry => (entry.1, entry.2.reread)) expressions = true := by
  induction expressions with
  | nil => rfl
  | cons entry rest ih =>
      obtain ⟨first, others⟩ := List.forall_mem_cons.1 finite
      change (entry.1 == entry.1 && entry.2.reread.beq entry.2 && _) = true
      rw [beq_self_eq_true, Bool.true_and]
      exact Bool.and_eq_true_iff.2 ⟨reread_beq first, ih others⟩

theorem names_eq_of_namedBeq {first second : List (String × Expression)}
    (same : namedBeq first second = true) : first.map Prod.fst = second.map Prod.fst := by
  induction first generalizing second with
  | nil =>
      cases second with
      | nil => rfl
      | cons => cases same
  | cons entry rest ih =>
      cases second with
      | nil => cases same
      | cons other others =>
          simp only [namedBeq, Bool.and_eq_true, beq_iff_eq] at same
          rw [List.map_cons, List.map_cons, same.1.1, ih same.2]

theorem nodup_names_of_increasing (increasing : Entries.Increasing expressions) :
    (expressions.map Prod.fst).Nodup :=
  List.pairwise_map.2 (increasing.imp String.ne_of_lt)

/-- Named expressions in order are read back equal exactly if no name is listed twice. -/
theorem namedBeq_rereadAll_iff (finite : ∀ entry ∈ expressions, entry.2.IsFinite)
    (ordered : expressions.Pairwise fun entry later => entry.1 ≤ later.1) :
    namedBeq (rereadAll expressions) expressions = true ↔ (expressions.map Prod.fst).Nodup := by
  constructor
  · intro same
    -- What comes back has its names in strict order, so none of them was lost.
    have names : (Entries.ofList expressions).map Prod.fst = expressions.map Prod.fst := by
      rw [← names_eq_of_namedBeq same, rereadAll, List.map_map]
      rfl
    rw [← names]
    exact nodup_names_of_increasing (Entries.increasing_ofList expressions)
  · intro distinct
    have increasing : Entries.Increasing expressions :=
      (ordered.and (List.pairwise_map.1 distinct)).imp fun both =>
        Std.lt_of_le_of_ne both.1 both.2
    rw [rereadAll, Entries.ofList_of_increasing increasing]
    exact namedBeq_map_reread finite

end Expression

/-! ## Equal nodes -/

/-- Numbers are finite, names are in order, and the table is read back as an equal one. -/
structure NodeKind.Lasting {callee : Type} (kind : NodeKind callee) : Prop where
  finite : ∀ expression ∈ kind.expressions, expression.IsFinite
  keys : ∀ lookup, kind = .tableLookup lookup →
    lookup.keys.Pairwise fun entry later => entry.1 ≤ later.1
  table : ∀ lookup, kind = .tableLookup lookup → lookup.table.Lasting
  extras : ∀ spec, kind = .output spec → Entries.Increasing spec.extras

namespace Graph

theorem outputBeq_reread {spec : OutputSpec}
    (lasting : (NodeKind.output spec : NodeKind Unit).Lasting) :
    kindBeq (NodeKind.output spec).reread (.output spec) = true := by
  obtain ⟨output, message, extras⟩ := spec
  have finite := lasting.finite
  simp only [NodeKind.expressions, List.cons_append, List.nil_append, List.forall_mem_cons,
    List.forall_mem_append, Option.mem_toList, List.forall_mem_map] at finite
  obtain ⟨outputFinite, messageFinite, extrasFinite⟩ := finite
  have sameMessage : (message.map Expression.reread == message) = true := by
    cases message with
    | none => rfl
    | some message => exact Expression.reread_beq (messageFinite message rfl)
  have increasing : Entries.Increasing extras := lasting.extras _ rfl
  have sameExtras : Expression.namedBeq (Expression.rereadAll extras) extras = true := by
    rw [Expression.rereadAll, Entries.ofList_of_increasing increasing]
    exact Expression.namedBeq_map_reread extrasFinite
  rw [NodeKind.reread, kindBeq]
  exact Bool.and_eq_true_iff.2
    ⟨Bool.and_eq_true_iff.2 ⟨Expression.reread_beq outputFinite, sameMessage⟩, sameExtras⟩

theorem lookupBeq_reread_iff {lookup : TableLookup}
    (lasting : (NodeKind.tableLookup lookup : NodeKind Unit).Lasting) :
    kindBeq (NodeKind.tableLookup lookup).reread (.tableLookup lookup) = true ↔
      (lookup.keys.map Prod.fst).Nodup := by
  rw [← Expression.namedBeq_rereadAll_iff (List.forall_mem_map.1 lasting.finite)
    (lasting.keys _ rfl), NodeKind.reread, kindBeq]
  change (Expression.namedBeq (Expression.rereadAll lookup.keys) lookup.keys &&
    lookup.target == lookup.target && lookup.extraTargets == lookup.extraTargets &&
      lookup.table.reread == lookup.table) = true ↔ _
  rw [beq_self_eq_true, beq_self_eq_true, DecisionTable.reread_beq (lasting.table _ rfl),
    Bool.and_true, Bool.and_true, Bool.and_true]

/-- A node is read back as an equal one exactly if it is no lookup by one column twice. -/
theorem kindBeq_reread_iff {kind : NodeKind Graph} (alone : kind.callee? = none)
    (lasting : kind.unresolved.Lasting) :
    kindBeq kind.reread kind = true ↔
      ∀ lookup, kind = .tableLookup lookup → (lookup.keys.map Prod.fst).Nodup := by
  have same (expression : Expression) (member : expression ∈ kind.unresolved.expressions) :
      (expression.reread == expression) = true :=
    Expression.reread_beq (lasting.finite expression member)
  cases kind with
  | tableLookup lookup =>
      rw [lookupBeq_reread_iff lasting]
      exact ⟨fun distinct _ isLookup => NodeKind.tableLookup.inj isLookup ▸ distinct,
        fun distinct => distinct lookup rfl⟩
  | subflowCall call => cases alone
  | start | input field => simp [NodeKind.reread, kindBeq]
  | conditional predicate =>
      simp [NodeKind.reread, kindBeq, same predicate (List.mem_singleton_self _)]
  | arithmetic expression rounding =>
      simp [NodeKind.reread, kindBeq, same expression (List.mem_singleton_self _)]
  | stringTransform transform source =>
      simp [NodeKind.reread, kindBeq, same source (List.mem_singleton_self _)]
  | output spec => simp [outputBeq_reread lasting]

end Graph

/-! ## What readers make of proper nodes -/

namespace NodeDocument

/-- The parameters are JSON values with finite numbers, and objects list their members in order. -/
structure Proper (node : NodeDocument) : Prop where
  finite : ∀ parameter ∈ node.parameters, parameter.2.IsFinite
  ordered : ∀ name members, (name, Json.object members) ∈ node.parameters →
    Entries.Increasing members

/-- If the keys are an array, no column is listed twice and none without a name. -/
def ListsKeysOnce (node : NodeDocument) : Prop :=
  ∀ columns : List String, node.parameter? "keys" = some (.array (columns.map .string)) →
    columns.Nodup ∧ "" ∉ columns

variable {node : NodeDocument}

theorem listsKeysOnce_iff {columns : List String}
    (listed : node.parameter? "keys" = some (.array (columns.map .string))) :
    node.ListsKeysOnce ↔ columns.Nodup ∧ "" ∉ columns := by
  constructor
  · exact fun once => once columns listed
  · intro once others isOthers
    rw [listed, Option.some.injEq, Json.array.injEq,
      List.map_inj_right fun _ _ => Json.string.inj] at isOthers
    exact isOthers ▸ once

theorem names_of_expressionsOf {members : List (String × Json)}
    {expressions : List (String × Expression)}
    (read : node.expressionsOf members = .ok expressions) :
    expressions.map Prod.fst = members.map Prod.fst := by
  induction members generalizing expressions with
  | nil =>
      cases read
      rfl
  | cons member rest ih =>
      obtain ⟨expression, -, read⟩ := bind_eq_ok_iff.1 read
      obtain ⟨others, isOthers, read⟩ := bind_eq_ok_iff.1 read
      cases read
      rw [List.map_cons, List.map_cons, ih isOthers]

theorem increasing_of_expressionsOf {members : List (String × Json)}
    {expressions : List (String × Expression)} (increasing : Entries.Increasing members)
    (read : node.expressionsOf members = .ok expressions) : Entries.Increasing expressions := by
  have names := List.pairwise_map.2 increasing
  rw [← names_of_expressionsOf read] at names
  exact List.pairwise_map.1 names

theorem increasing_of_namedExpressions (proper : node.Proper) {name : String}
    {expressions : List (String × Expression)}
    (read : node.namedExpressions name = .ok expressions) : Entries.Increasing expressions := by
  unfold namedExpressions at read
  split at read
  · cases read
    exact .nil
  next members present =>
    have found := Entries.mem_of_find? (parameter?_of_optional? present)
    exact increasing_of_expressionsOf (proper.ordered _ _ found) read
  · cases read

end NodeDocument

namespace NodeReader

variable {node : NodeDocument} {kind : NodeKind Unit}

theorem sorted_mergeSort (columns : List String) :
    (columns.mergeSort fun column column' => decide (column ≤ column')).Pairwise (· ≤ ·) := by
  have sorted : (columns.mergeSort fun column column' => decide (column ≤ column')).Pairwise
      fun column column' => decide (column ≤ column') = true :=
    List.pairwise_mergeSort (fun _ _ _ => by simpa using String.le_trans)
      (by simpa using String.le_total) columns
  simpa using sorted

theorem ordered_of_lookupKeys (proper : node.Proper) {keys : List (String × Expression)}
    (read : lookupKeys node = .ok keys) :
    keys.Pairwise fun entry later => entry.1 ≤ later.1 := by
  rcases read_of_lookupKeys read with ⟨columns, -, rfl⟩ | ⟨members, present, isRead⟩
  · exact List.pairwise_map.2 (sorted_mergeSort columns)
  · have increasing := NodeDocument.increasing_of_expressionsOf
      (proper.ordered _ _ (Entries.mem_of_find? present)) isRead
    exact increasing.imp Std.le_of_lt

theorem lasting_of_lookupTable (proper : node.Proper) {table : DecisionTable}
    (read : lookupTable node = .ok table) : table.Lasting := by
  rcases read_of_lookupTable read with ⟨text, isTable⟩ | ⟨rows, columns, isRows, isTable⟩
  · exact DecisionTable.lasting_of_ofCsv isTable
  · exact DecisionTable.lasting_of_ofJsonRows (Json.itemsFinite_iff.1 (proper.finite _ isRows))
      isTable

theorem Yields.lasting (proper : node.Proper) (yields : Yields node kind) : kind.Lasting := by
  constructor
  case finite =>
    rcases yields.proper_or_fields Expression.inherits_isFinite proper.finite with
      finite | ⟨lookup, rfl, fields⟩
    · exact finite
    · -- The fields of listed columns hold no numbers.
      refine List.forall_mem_map.2 fun entry member => ?_
      rw [fields entry member]
      trivial
  case keys =>
    rintro lookup rfl
    cases yields with
    | tableLookup isKeys => exact ordered_of_lookupKeys proper isKeys
  case table =>
    rintro lookup rfl
    cases yields with
    | tableLookup _ _ isTable => exact lasting_of_lookupTable proper isTable
  case extras =>
    rintro spec rfl
    cases yields with
    | output _ _ isExtras => exact NodeDocument.increasing_of_namedExpressions proper isExtras

/-- The keys of a lookup are distinct and named, unless they are listed otherwise. -/
theorem distinct_and_named_iff (proper : node.Proper) {keys : List (String × Expression)}
    (read : lookupKeys node = .ok keys) :
    ((keys.map Prod.fst).Nodup ∧ ∀ entry ∈ keys, entry.2.Named) ↔ node.ListsKeysOnce := by
  rcases read_of_lookupKeys read with ⟨columns, present, rfl⟩ | ⟨members, present, isRead⟩
  · have permutation := List.mergeSort_perm columns fun column column' => decide (column ≤ column')
    have names : ∀ sorted : List String,
        (sorted.map fun column => (column, Expression.field column)).map Prod.fst = sorted := by
      intro sorted
      rw [List.map_map]
      exact List.map_id sorted
    rw [NodeDocument.listsKeysOnce_iff present, names, permutation.nodup_iff, List.forall_mem_map]
    refine and_congr_right fun _ => ⟨fun named isListed => ?_, fun notListed column isColumn => ?_⟩
    · exact named "" (permutation.mem_iff.2 isListed) rfl
    · rintro rfl
      exact notListed (permutation.mem_iff.1 isColumn)
  · -- The members of an object have different names, and expressions in it name what they refer to.
    have increasing := NodeDocument.increasing_of_expressionsOf
      (proper.ordered _ _ (Entries.mem_of_find? present)) isRead
    refine iff_of_true ⟨Expression.nodup_names_of_increasing increasing, ?_⟩ ?_
    · exact NodeDocument.proper_of_expressionsOf Expression.inherits_named (fun _ _ => trivial) isRead
    · intro columns isArray
      cases present.symm.trans isArray

/-- The keys of a node that is read are distinct and named, unless they are listed otherwise. -/
theorem Yields.named_and_distinct_iff (proper : node.Proper) (yields : Yields node kind) :
    (kind.Named ∧ ∀ lookup, kind = .tableLookup lookup → (lookup.keys.map Prod.fst).Nodup) ↔
      ∀ lookup, kind = .tableLookup lookup → node.ListsKeysOnce := by
  by_cases isLookup : ∃ lookup, kind = .tableLookup lookup
  · obtain ⟨lookup, rfl⟩ := isLookup
    cases yields with
    | tableLookup isKeys =>
        have named : (NodeKind.tableLookup lookup : NodeKind Unit).Named ↔
            ∀ entry ∈ lookup.keys, entry.2.Named := List.forall_mem_map
        simp only [NodeKind.tableLookup.injEq, forall_eq']
        rw [named, and_comm, distinct_and_named_iff proper isKeys]
  · have noLookup {lookup : TableLookup} (same : kind = .tableLookup lookup) : False :=
      isLookup ⟨lookup, same⟩
    have named : kind.Named := by
      rcases yields.proper_or_fields Expression.inherits_named fun _ _ => trivial with
        named | ⟨lookup, same, -⟩
      · exact named
      · exact (noLookup same).elim
    exact iff_of_true ⟨named, fun _ same => (noLookup same).elim⟩ fun _ same => (noLookup same).elim

end NodeReader

/-! ## Nodes of graphs -/

theorem NodeKind.unresolved_eq_tableLookup_iff {kind : NodeKind Graph} {lookup : TableLookup} :
    kind.unresolved = .tableLookup lookup ↔ kind = .tableLookup lookup := by
  cases kind <;> simp [unresolved, map]

namespace Compiler

variable {find : String → VersionRequest → Compilation Graph} {before after : Progress}

/-- A node that calls no flow is read back exactly if its expressions name what they refer to. -/
theorem nodeDocument_run_eq_ok_iff {node again : Node Graph}
    (regular : NodeReader.Regular node.kind.unresolved) (alone : node.kind.callee? = none) :
    (Compiler.plain.compileNode find (nodeDocument node)).run before = .ok again after ↔
      node.kind.Named ∧ again = ⟨node.id, node.kind.reread⟩ ∧ after = before := by
  have known : Compiler.plain.kinds.find? (nodeDocument node).kind =
      some node.kind.unresolved.reader := by
    rw [Graph.nodeDocument_eq]
    exact KindTable.find?_name _
  have runs (named : node.kind.Named) :
      (Compiler.plain.compileNode find (nodeDocument node)).run before =
        .ok ⟨node.id, node.kind.reread⟩ before := by
    have portable : node.Portable := ⟨regular.valid, NodeKind.named_unresolved_iff.2 named⟩
    refine compileNode_run_eq_ok_iff.2 ⟨_, known, rfl, ?_,
      .inl ⟨(NodeKind.callee?_reread _).trans alone, rfl⟩⟩
    rw [portable.reads, NodeKind.unresolved_reread]
  constructor
  · intro run
    obtain ⟨reader, isReader, -, read, -⟩ := compileNode_run_eq_ok_iff.1 run
    rw [← Option.some.inj (known.symm.trans isReader), Graph.nodeDocument_eq] at read
    have named := NodeKind.named_unresolved_iff.1
      (NodeKind.named_of_reader_document regular.named read)
    cases (runs named).symm.trans run
    exact ⟨named, rfl, rfl⟩
  · rintro ⟨named, rfl, rfl⟩
    exact runs named

/-- A node that calls no flow is read back as an equal one exactly if its expressions name what they
refer to and it is no lookup by one column twice. -/
theorem exists_equal_again_iff {node : Node Graph}
    (regular : NodeReader.Regular node.kind.unresolved) (lasting : node.kind.unresolved.Lasting)
    (alone : node.kind.callee? = none) :
    (∃ again, (Compiler.plain.compileNode find (nodeDocument node)).run before = .ok again before ∧
        Graph.nodeBeq again node = true) ↔
      node.kind.Named ∧
        ∀ lookup, node.kind = .tableLookup lookup → (lookup.keys.map Prod.fst).Nodup := by
  have equal : Graph.nodeBeq ⟨node.id, node.kind.reread⟩ node = true ↔
      Graph.kindBeq node.kind.reread node.kind = true := by
    rw [Graph.nodeBeq, beq_self_eq_true, Bool.true_and]
  simp only [nodeDocument_run_eq_ok_iff regular alone]
  rw [← Graph.kindBeq_reread_iff alone lasting, ← equal]
  constructor
  · rintro ⟨_, ⟨named, rfl, -⟩, same⟩
    exact ⟨named, same⟩
  · rintro ⟨named, same⟩
    exact ⟨_, ⟨named, rfl, trivial⟩, same⟩

/-- **Nodes are read back equal.** What a built-in kind accepts, under whatever name, and calls no
flow, is written such that it is accepted again and yields an equal node, exactly if it is no lookup
with an array of keys that repeats a column or lists a column without a name. -/
theorem equal_again_iff {aliases : List (String × String)} {resolver : Resolver}
    {callee : String → VersionRequest → Compilation Graph} {earlier later : Progress}
    {node : NodeDocument} {compiled : Node Graph} (proper : node.Proper)
    (run : ((builtIn aliases resolver).compileNode callee node).run earlier = .ok compiled later)
    (alone : compiled.kind.callee? = none) :
    (∃ again, (Compiler.plain.compileNode find (nodeDocument compiled)).run before =
        .ok again before ∧ Graph.nodeBeq again compiled = true) ↔
      ∀ lookup, compiled.kind = .tableLookup lookup → node.ListsKeysOnce := by
  obtain ⟨reader, known, -, read, -⟩ := compileNode_run_eq_ok_iff.1 run
  have isBuiltIn :=
    KindTable.builtIn_of_addAliases KindTable.builtIn_of_standard aliases _ reader known
  have yields := NodeReader.yields_of_read isBuiltIn read
  rw [exists_equal_again_iff yields.regular (yields.lasting proper) alone]
  simp only [← NodeKind.unresolved_eq_tableLookup_iff]
  rw [← NodeKind.named_unresolved_iff]
  exact yields.named_and_distinct_iff proper

/-! ## A column that is listed twice -/

/-- Looks up the price of an article by listed columns. -/
def priceList (columns : List String) : NodeDocument where
  id := "price"
  kind := "table"
  parameters := [("columns", .array [.string "size", .string "price"]),
    ("keys", .array (columns.map .string)),
    ("rows", .array [.array [.string "S", .float 2.5], .array [.string "*", .float 4.5]]),
    ("target", .string "price")]

/-- The lookup that a price list describes. -/
def priceLookup (columns : List String) : TableLookup where
  keys := columns.map fun column => (column, .field column)
  target := "price"
  extraTargets := []
  table := ⟨["size", "price"],
    [[.literal (.string "S"), .literal (.number 2.5)], [.wildcard, .literal (.number 4.5)]]⟩

/-- The node that a price list is read as. -/
def priceNode (columns : List String) : Node Graph :=
  ⟨"price", .tableLookup (priceLookup columns)⟩

/-- No flow can be called. -/
def unanswered (flow : String) (request : VersionRequest) : Compilation Graph :=
  throw (.reference (.unresolved flow request))

/-- Nothing was compiled yet. -/
def noProgress : Progress :=
  ⟨Library.empty, [], []⟩

theorem proper_priceList (columns : List String) : (priceList columns).Proper where
  finite := by
    have small : Decimal.isFinite 2.5 = true := by decide +kernel
    have large : Decimal.isFinite 4.5 = true := by decide +kernel
    simp [priceList, Json.IsFinite, Json.ItemsFinite, Json.itemsFinite_iff, small, large]
  ordered := by simp [priceList]

section

variable {columns : List String} (sorted : columns.Pairwise (· ≤ ·)) (present : columns ≠ [])
  (known : ∀ column ∈ columns, column ∈ ["size", "price"])
include sorted present known

theorem tableLookup_priceList : NodeReader.tableLookup (priceList columns) =
    .ok (priceNode columns).kind.unresolved := by
  have keys : NodeReader.lookupKeys (priceList columns) = .ok (priceLookup columns).keys := by
    have isSorted : columns.mergeSort (fun column column' => decide (column ≤ column')) = columns :=
      List.mergeSort_of_pairwise (by simpa using sorted)
    simp only [NodeReader.lookupKeys, bind, Except.bind, NodeDocument.required,
      NodeDocument.parameter?, priceList, Entries.find?_cons, String.reduceEq, ↓reduceIte,
      NodeReader.textsOf_map_string, isSorted]
    rfl
  have target : (priceList columns).requiredText "target" = .ok "price" := by
    rfl
  have extraTargets : (priceList columns).texts "extra_targets" = .ok [] := by
    rfl
  have table : NodeReader.lookupTable (priceList columns) = .ok (priceLookup columns).table := by
    rfl
  have keyed : (priceLookup columns).keys.isEmpty = false := by
    simpa [priceLookup] using present
  have required : (priceLookup columns).table.requireColumns
      ((priceLookup columns).keys.map Prod.fst ++ ["price"] ++ []) = .ok () := by
    apply NodeReader.requireColumns_eq_ok_iff.2
    simpa [priceLookup, or_imp, forall_and] using known
  simp only [NodeReader.tableLookup, keys, bind, Except.bind, keyed, target, extraTargets, table,
    required]
  rfl

theorem compileNode_priceList :
    ((builtIn [] Resolver.none).compileNode unanswered (priceList columns)).run noProgress =
      .ok (priceNode columns) noProgress :=
  compileNode_run_eq_ok_iff.2 ⟨NodeReader.tableLookup, rfl, rfl,
    tableLookup_priceList sorted present known, .inl ⟨rfl, rfl⟩⟩

end

/-- A lookup by two columns comes back. -/
theorem equal_again_iff_of_priceList : (priceList ["price", "size"]).Proper ∧
    ((builtIn [] Resolver.none).compileNode unanswered (priceList ["price", "size"])).run
      noProgress = .ok (priceNode ["price", "size"]) noProgress ∧
    ∃ again, (Compiler.plain.compileNode unanswered (nodeDocument (priceNode ["price", "size"]))).run
      noProgress = .ok again noProgress ∧
        Graph.nodeBeq again (priceNode ["price", "size"]) = true := by
  have proper := proper_priceList ["price", "size"]
  have sorted : ["price", "size"].Pairwise (· ≤ ·) := by decide
  have run := compileNode_priceList sorted (by decide) (by decide)
  refine ⟨proper, run, (equal_again_iff proper run rfl).2 fun _ _ => ?_⟩
  exact (NodeDocument.listsKeysOnce_iff rfl).2 (by decide)

/-- A lookup by one column that is listed twice does not come back. -/
theorem not_equal_again_of_priceList : (priceList ["size", "size"]).Proper ∧
    ((builtIn [] Resolver.none).compileNode unanswered (priceList ["size", "size"])).run
      noProgress = .ok (priceNode ["size", "size"]) noProgress ∧
    ¬ ∃ again, (Compiler.plain.compileNode unanswered (nodeDocument (priceNode ["size", "size"]))).run
      noProgress = .ok again noProgress ∧
        Graph.nodeBeq again (priceNode ["size", "size"]) = true := by
  have proper := proper_priceList ["size", "size"]
  have sorted : ["size", "size"].Pairwise (· ≤ ·) := by decide
  have known : ∀ column ∈ ["size", "size"], column ∈ ["size", "price"] := by decide
  refine ⟨proper, compileNode_priceList sorted (by decide) known, ?_⟩
  have yields := NodeReader.yields_tableLookup (tableLookup_priceList sorted (by decide) known)
  rw [exists_equal_again_iff yields.regular (yields.lasting proper) rfl]
  rintro ⟨-, distinct⟩
  exact absurd (distinct _ rfl) (by decide)

end Compiler

end DecisionFlow
