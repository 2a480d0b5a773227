import DecisionFlow.Image.Decode
import DecisionFlow.Proofs.Image.Layout

/-!
# Images are read back

The image of a graph is read back as that graph, whatever bytes follow it. An index may be written
with its entries in any order; the graph that is read then has this order, and is the same otherwise.

Expressions and called flows nest. They are read back within any number of levels that is at least
the number of their bytes, since every level has a byte of its own.
-/

set_option autoImplicit false

namespace DecisionFlow.Image

open DecisionFlow.Graph (Calls CallsWithin calls_cons_iff not_calls_nil nodesAlike_iff_forall₂)

variable {α : Type}

/-! ## Alternatives and levels -/

/-- The number of an alternative, followed by its bytes. -/
theorem Reads.alternative {tag : Nat} {next : Nat → Decoder α} {bytes : Bytes} {value : α}
    (small : tag < 0x100000000) (later : Reads (next tag) bytes value) :
    Reads (decodeShortNat >>= next) (encodeNat tag ++ bytes) value :=
  (reads_shortNat small).bind later

/-- The number of an alternative without bytes. -/
theorem Reads.constant {tag : Nat} {next : Nat → Decoder α} {value : α} (small : tag < 0x100000000)
    (later : Reads (next tag) [] value) : Reads (decodeShortNat >>= next) (encodeNat tag) value := by
  have read := Reads.alternative small later
  rwa [List.append_nil] at read

/-- A decoder that is given the number of bytes left is given enough. -/
theorem reads_of_within {decodeWithin : Nat → Decoder α} {bytes : Bytes} {value : α}
    (within : ∀ levels, bytes.length ≤ levels → Reads (decodeWithin levels) bytes value) :
    Reads (do decodeWithin (← get).length) bytes value := fun rest =>
  within (bytes ++ rest).length (List.length_append ▸ Nat.le_add_right _ _) rest

theorem length_encodeNat_pos (value : Nat) : 0 < (encodeNat value).length := by
  unfold encodeNat
  split
  · exact Nat.succ_pos _
  · split
    · exact Nat.succ_pos _
    · split <;> exact Nat.succ_pos _

theorem length_encodeText_pos (text : String) : 0 < (encodeText text).length := by
  rw [encodeText, List.length_append]
  exact Nat.add_pos_left (length_encodeNat_pos _) _

/-! ## Values, expressions and tables -/

theorem reads_value {value : Value} (fits : ValueFits value) :
    Reads decodeValue (encodeValue value) value := by
  cases value with
  | double value => exact .alternative (by decide) ((reads_double value).last Value.double)
  | string text => exact .alternative (by decide) ((reads_text fits).last Value.string)
  | bool value => exact .alternative (by decide) ((reads_bool value).last Value.bool)
  | null => exact .constant (by decide) (.pure Value.null)

theorem operatorNumber_lt (operator : BinaryOperator) : operatorNumber operator < 0x100000000 := by
  cases operator <;> decide

theorem operatorOf?_operatorNumber (operator : BinaryOperator) :
    operatorOf? (operatorNumber operator) = some operator := by
  cases operator <;> rfl

theorem length_encodeExpression_pos (expression : Expression) :
    0 < (encodeExpression expression).length := by
  cases expression <;> rw [encodeExpression, List.length_append] <;>
    exact Nat.add_pos_left (length_encodeNat_pos _) _

theorem reads_expressionWithin {expression : Expression} (fits : ExpressionFits expression)
    {levels : Nat} (enough : (encodeExpression expression).length ≤ levels) :
    Reads (decodeExpressionWithin levels) (encodeExpression expression) expression := by
  -- On the levels, as the decoder recurs: an operand has fewer bytes than what it stands in.
  induction levels generalizing expression with
  | zero => exact absurd enough (Nat.not_le.2 (length_encodeExpression_pos expression))
  | succ levels ih =>
      cases expression with
      | binary operator left right =>
          obtain ⟨fitsLeft, fitsRight⟩ := fits
          have tag := length_encodeNat_pos (operatorNumber operator)
          simp only [encodeExpression, List.length_append] at enough
          refine .alternative (operatorNumber_lt operator) ?_
          rw [operatorOf?_operatorNumber]
          exact (ih fitsLeft (by omega)).bind
            ((ih fitsRight (by omega)).last (Expression.binary operator left))
      | not operand =>
          have tag := length_encodeNat_pos 4
          simp only [encodeExpression, List.length_append] at enough
          have inner : Reads (decodeExpressionWithin levels) (encodeExpression operand) operand :=
            ih fits (by omega)
          exact .alternative (by decide) (inner.last Expression.not)
      | literal value => exact .alternative (by decide) ((reads_value fits).last Expression.literal)
      | field name =>
          exact .alternative (by decide)
            (.alternative (by decide) ((reads_text fits).last Expression.field))
      | node reference =>
          exact .alternative (by decide)
            (.alternative (by decide) ((reads_text fits).last Expression.node))

theorem reads_expression {expression : Expression} (fits : ExpressionFits expression) :
    Reads decodeExpression (encodeExpression expression) expression :=
  reads_of_within fun _ enough => reads_expressionWithin fits enough

theorem reads_named {named : List (String × Expression)} (fits : NamedFits named) :
    Reads decodeNamed (encodeNamed named) named :=
  reads_list fits fun _ fits => reads_pair (reads_text fits.1) (reads_expression fits.2)

theorem reads_cell {cell : Cell} (fits : CellFits cell) :
    Reads decodeCell (encodeCell cell) cell := by
  cases cell with
  | literal value => exact .alternative (by decide) ((reads_value fits).last Cell.literal)
  | wildcard => exact .constant (by decide) (.pure Cell.wildcard)

theorem reads_table {table : DecisionTable} (fits : TableFits table) :
    Reads decodeTable (encodeTable table) table := by
  obtain ⟨columns, rows⟩ := table
  exact (reads_list fits.1 fun _ => reads_text).bind
    ((reads_list fits.2 fun _ fits => reads_list fits fun _ => reads_cell).last
      (DecisionTable.mk columns))

/-! ## Nodes and edges -/

theorem reads_request {request : VersionRequest} (fits : RequestFits request) :
    Reads decodeRequest (encodeRequest request) request := by
  cases request with
  | exact version => exact .alternative (by decide) ((reads_text fits).last VersionRequest.exact)
  | any => exact .constant (by decide) (.pure VersionRequest.any)

theorem reads_transform (transform : StringTransform) :
    Reads decodeTransform (encodeTransform transform) transform := by
  cases transform <;> exact .constant (by decide) (.pure _)

theorem reads_lookup {lookup : TableLookup} (fits : LookupFits lookup) :
    Reads decodeLookup (encodeLookup lookup) lookup := by
  obtain ⟨keys, target, extraTargets, table⟩ := lookup
  obtain ⟨fitsKeys, fitsTarget, fitsExtra, fitsTable⟩ := fits
  exact (reads_named fitsKeys).bind <| (reads_text fitsTarget).bind <|
    (reads_list fitsExtra fun _ => reads_text).bind <|
      (reads_table fitsTable).last (TableLookup.mk keys target extraTargets)

theorem reads_output {spec : OutputSpec} (fits : OutputFits spec) :
    Reads decodeOutput (encodeOutput spec) spec := by
  obtain ⟨output, message, extras⟩ := spec
  obtain ⟨fitsOutput, fitsMessage, fitsExtras⟩ := fits
  exact (reads_expression fitsOutput).bind <|
    (reads_option fun part isPart => reads_expression (fitsMessage part isPart)).bind <|
      (reads_named fitsExtras).last (OutputSpec.mk output message)

theorem reads_label (label : EdgeLabel) : Reads decodeLabel (encodeLabel label) label := by
  cases label <;> exact .constant (by decide) (.pure _)

theorem reads_edge {edge : Edge} (fits : EdgeFits edge) :
    Reads decodeEdge (encodeEdge edge) edge := by
  obtain ⟨source, label, target⟩ := edge
  exact (reads_text fits.1).bind <| (reads_label label).bind <|
    (reads_text fits.2).last (Edge.mk source label)

theorem reads_successors {successors : Successors} (fits : SuccessorsFits successors) :
    Reads decodeSuccessors (encodeSuccessors successors) successors := by
  have position (label : EdgeLabel) : ∀ position ∈ successors.get? label,
      Reads decodeNat (encodeNat position) position := fun position found =>
    reads_nat (fits position (Successors.mem_targets.2 ⟨label, found⟩))
  obtain ⟨next, thenBranch, elseBranch⟩ := successors
  exact (reads_option (position .next)).bind <| (reads_option (position .thenBranch)).bind <|
    (reads_option (position .elseBranch)).last (Successors.mk next thenBranch)

theorem reads_index {index : PositionIndex} (fits : ListFits EntryFits index.entries) :
    Reads decodeIndex (encodeIndex index) index := by
  have read : Reads decodeIndex (encodeIndex index) (PositionIndex.ofList index.entries) :=
    (reads_list fits fun _ fits => reads_pair (reads_text fits.1) (reads_nat fits.2)).last _
  rwa [PositionIndex.ofList_entries] at read

section

variable {kind : NodeKind Graph} {decodeCallee : Decoder Graph}

theorem reads_call {call : SubflowCall Graph} (fits : CallFits call)
    (callee : Reads decodeCallee (encodeGraph call.target) call.target) :
    Reads (decodeCall decodeCallee) (encodeCall call) call := by
  obtain ⟨flow, version, inputs, target⟩ := call
  rw [encodeCall]
  obtain ⟨fitsFlow, fitsVersion, fitsInputs⟩ := fits
  exact (reads_text fitsFlow).bind <| (reads_request fitsVersion).bind <|
    (reads_named fitsInputs).bind <| callee.last (SubflowCall.mk flow version inputs)

theorem reads_kind (fits : KindFits kind)
    (callee : ∀ call, kind = .subflowCall call →
      Reads decodeCallee (encodeGraph call.target) call.target) :
    Reads (decodeKind decodeCallee) (encodeKind kind) kind := by
  cases kind <;> rw [encodeKind]
  case start => exact .constant (by decide) (.pure NodeKind.start)
  case input field => exact .alternative (by decide) ((reads_text fits).last NodeKind.input)
  case conditional predicate =>
    exact .alternative (by decide) ((reads_expression fits).last NodeKind.conditional)
  case arithmetic expression rounding =>
    exact .alternative (by decide) <| (reads_expression fits.1).bind <|
      (reads_option fun precision isRounding => reads_int (fits.2 precision isRounding)).last
        (NodeKind.arithmetic expression)
  case stringTransform transform source =>
    exact .alternative (by decide) <| (reads_transform transform).bind <|
      (reads_expression fits).last (NodeKind.stringTransform transform)
  case tableLookup lookup =>
    exact .alternative (by decide) ((reads_lookup fits).last NodeKind.tableLookup)
  case subflowCall call =>
    exact .alternative (by decide) ((reads_call fits (callee call rfl)).last NodeKind.subflowCall)
  case output spec => exact .alternative (by decide) ((reads_output fits).last NodeKind.output)

theorem reads_node {node : Node Graph} (fits : NodeFits node)
    (callee : ∀ call, node.kind = .subflowCall call →
      Reads decodeCallee (encodeGraph call.target) call.target) :
    Reads (decodeNode decodeCallee) (encodeNode node) node := by
  obtain ⟨id, kind⟩ := node
  rw [encodeNode]
  exact (reads_text fits.1).bind ((reads_kind fits.2 callee).last (Node.mk id))

end

/-! ## Graphs -/

theorem encodeNodes_eq (nodes : List (Node Graph)) :
    encodeNodes nodes = encodeItems encodeNode nodes := by
  induction nodes with
  | nil => rw [encodeNodes, encodeItems]
  | cons node rest ih => rw [encodeNodes, encodeItems, ih]

theorem encodeGraph_eq (graph : Graph) :
    encodeGraph graph = encodeText graph.id ++ (encodeText graph.version ++
      (encodeList encodeNode graph.nodes ++ (encodeList encodeEdge graph.edges ++
        (encodeIndex graph.index ++ (encodeList encodeSuccessors graph.successors ++
          encodeNat graph.start))))) := by
  obtain ⟨id, version, nodes, edges, index, successors, start⟩ := graph
  rw [encodeGraph, encodeNodes_eq]
  rfl

theorem length_encodeGraph_pos (graph : Graph) : 0 < (encodeGraph graph).length := by
  rw [encodeGraph_eq, List.length_append]
  exact Nat.add_pos_left (length_encodeText_pos _) _

variable {graph stored : Graph} {nodes : List (Node Graph)} {call : SubflowCall Graph}

/-- A called graph has fewer bytes than the nodes that call it. -/
theorem length_encodeGraph_target_lt (calls : Calls nodes call) :
    (encodeGraph call.target).length < (encodeItems encodeNode nodes).length := by
  induction nodes with
  | nil => exact absurd calls not_calls_nil
  | cons node rest ih =>
      rw [encodeItems, List.length_append]
      rcases calls_cons_iff.1 calls with isCall | calls
      · obtain ⟨id, kind⟩ := node
        obtain rfl : kind = .subflowCall call := isCall
        obtain ⟨flow, version, inputs, target⟩ := call
        have name := length_encodeText_pos id
        simp only [encodeNode, encodeKind, encodeCall, List.length_append]
        omega
      · exact Nat.lt_add_left _ (ih calls)

theorem reads_graphWithin (fits : GraphFits graph) {levels : Nat}
    (enough : (encodeGraph graph).length ≤ levels) :
    Reads (decodeGraphWithin levels) (encodeGraph graph) graph := by
  induction levels generalizing graph with
  | zero => exact absurd enough (Nat.not_le.2 (length_encodeGraph_pos graph))
  | succ levels ih =>
      have node : ∀ node ∈ graph.nodes,
          Reads (decodeNode (decodeGraphWithin levels)) (encodeNode node) node := by
        rintro ⟨id, kind⟩ member
        refine reads_node (fits.parts.nodes.2 _ member) ?_
        rintro call rfl
        -- The called graph is one level down and has fewer bytes than the nodes alone.
        have calls : Calls graph.nodes call := ⟨id, member⟩
        have fewer := length_encodeGraph_target_lt calls
        refine ih (fits.target calls) ?_
        rw [encodeGraph_eq, List.length_append, List.length_append, List.length_append,
          encodeList, List.length_append] at enough
        omega
      have parts := fits.parts
      rw [encodeGraph_eq]
      obtain ⟨id, version, nodes, edges, index, successors, start⟩ := graph
      exact (reads_text parts.id).bind <| (reads_text parts.version).bind <|
        ((reads_nat parts.nodes.1).bind (reads_items node)).bind <|
          (reads_list parts.edges fun _ => reads_edge).bind <|
            (reads_index parts.index).bind <|
              (reads_list parts.successors fun _ => reads_successors).bind <|
                (reads_nat parts.start).last
                  (Graph.mk id version nodes edges index successors)

/-- The image of a graph is read back, whatever follows it. -/
theorem reads_image (fits : GraphFits graph) :
    Reads decodeImage (encode graph) (formatNumber, graph) :=
  (reads_shortNat (show formatNumber < 0x100000000 by decide)).bind <|
    (reads_of_within fun _ enough => reads_graphWithin fits enough).last (formatNumber, ·)

/-! ## Images in which indexes have any order -/

/-- The bytes are an image of the graph: its parts one after the other, and every index with its
entries in some order. -/
def IsImage (graph : Graph) (bytes : Bytes) : Prop :=
  ∃ stored, graph.Alike stored ∧ encode stored = bytes

theorem isImage_encode (graph : Graph) : IsImage graph (encode graph) :=
  ⟨graph, .refl graph, rfl⟩

theorem IsImage.reads {bytes : Bytes} (isImage : IsImage graph bytes) (fits : GraphFits graph) :
    ∃ stored, graph.Alike stored ∧ Reads decodeImage bytes (formatNumber, stored) := by
  obtain ⟨stored, alike, rfl⟩ := isImage
  exact ⟨stored, alike, reads_image (fits.alike alike)⟩

theorem decode_of_reads {bytes : Bytes} (reads : Reads decodeImage bytes (formatNumber, stored))
    (rest : Bytes) : decode (bytes ++ rest) = .ok stored := by
  rw [decode, reads rest]
  rfl

/-- Whatever the order in which indexes were written and whatever follows the image, what is read is
the graph, field by field. -/
theorem decode_image_append {image : Bytes} (fits : GraphFits graph) (isImage : IsImage graph image)
    (rest : Bytes) : ∃ loaded, decode (image ++ rest) = .ok loaded ∧ graph.Alike loaded := by
  obtain ⟨stored, alike, reads⟩ := isImage.reads fits
  exact ⟨stored, decode_of_reads reads rest, alike⟩

/-- A flow whose output is an undefined number with bits of its own. -/
def undefinedFlow (index : PositionIndex) : Graph where
  id := "undefined"
  version := "1"
  nodes := [⟨"start", .start⟩, ⟨"out", .output ⟨.literal (.double ⟨0x7ff8000000000001⟩), none, []⟩⟩]
  edges := [⟨"start", .next, "out"⟩]
  index
  successors := [⟨some 1, none, none⟩, .empty]
  start := 0

/-- A flow that calls it. -/
def callingFlow (index nested : PositionIndex) : Graph where
  id := "calling"
  version := "1"
  nodes :=
    [⟨"start", .start⟩,
      ⟨"call", .subflowCall ⟨"undefined", .any, [("rate", .field "rate")], undefinedFlow nested⟩⟩,
      ⟨"out", .output ⟨.node "call", none, []⟩⟩]
  edges := [⟨"start", .next, "call"⟩, ⟨"call", .next, "out"⟩]
  index
  successors := [⟨some 1, none, none⟩, ⟨some 2, none, none⟩, .empty]
  start := 0

def shortIndex : PositionIndex := ⟨[("start", 0), ("out", 1)], by decide⟩

def shortIndexReversed : PositionIndex := ⟨[("out", 1), ("start", 0)], by decide⟩

def longIndex : PositionIndex := ⟨[("start", 0), ("call", 1), ("out", 2)], by decide⟩

def longIndexReversed : PositionIndex := ⟨[("out", 2), ("call", 1), ("start", 0)], by decide⟩

theorem graphFits_callingFlow : GraphFits (callingFlow longIndex shortIndex) := by
  have callee : GraphFits (undefinedFlow shortIndex) := by
    refine .of_target ⟨?_, ?_, ?_, ?_, ?_, ?_, ?_⟩ ?_
    iterate 7 decide
    rintro call ⟨id, member⟩
    simp [undefinedFlow] at member
  refine .of_target ⟨?_, ?_, ?_, ?_, ?_, ?_, ?_⟩ ?_
  iterate 7 decide
  rintro call ⟨id, member⟩
  obtain ⟨-, rfl⟩ : id = "call" ∧ call = _ := by simpa [callingFlow] using member
  exact callee

theorem isImage_callingFlow : IsImage (callingFlow longIndex shortIndex)
    (encode (callingFlow longIndexReversed shortIndexReversed)) := by
  refine ⟨_, ?_, rfl⟩
  have short : shortIndex.Agrees shortIndexReversed :=
    PositionIndex.agrees_iff_perm.2 (by decide)
  have long : longIndex.Agrees longIndexReversed :=
    PositionIndex.agrees_iff_perm.2 (by decide)
  have callee : (undefinedFlow shortIndex).Alike (undefinedFlow shortIndexReversed) :=
    ⟨rfl, rfl, ⟨⟨rfl, rfl⟩, ⟨rfl, rfl⟩, trivial⟩, rfl, short, rfl, rfl⟩
  exact ⟨rfl, rfl, ⟨⟨rfl, rfl⟩, ⟨rfl, rfl, rfl, rfl, callee⟩, ⟨rfl, rfl⟩, trivial⟩, rfl, long, rfl, rfl⟩

theorem decode_image_append_of_reversed :
    GraphFits (callingFlow longIndex shortIndex) ∧
      IsImage (callingFlow longIndex shortIndex)
        (encode (callingFlow longIndexReversed shortIndexReversed)) ∧
      ∃ loaded,
        decode (encode (callingFlow longIndexReversed shortIndexReversed) ++ [7]) = .ok loaded ∧
          (callingFlow longIndex shortIndex).Alike loaded :=
  ⟨graphFits_callingFlow, isImage_callingFlow,
    decode_image_append graphFits_callingFlow isImage_callingFlow [7]⟩

end DecisionFlow.Image
