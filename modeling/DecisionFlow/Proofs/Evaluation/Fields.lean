import DecisionFlow.Compilation.Basic
import DecisionFlow.Graph.Summary
import DecisionFlow.Proofs.Evaluation.Walk

/-!
# Which fields matter

A graph lists the record fields that its nodes read. Two records that give these fields the same
values, where a field that is absent counts as null, are evaluated in the same way: no other field
shows in the result, in an error or in the trace (`evaluate_eq_of_agree_on_inputFields`).

Two walks are kept in step. Their bindings hold the same values of nodes and agree on the listed
fields, so every node computes the same value and chooses the same edge in both. A called flow is run
on the values of the inputs of its call, which are then the same, and sees nothing else.
-/

set_option autoImplicit false

namespace DecisionFlow

/-! ## Agreement -/

/-- The records give the same values to the named fields. -/
def Record.AgreeOn (names : List String) (record other : Record) : Prop :=
  ∀ name ∈ names, record.get name = other.get name

/-- The same values are bound, for records that agree on the named fields. -/
structure Bindings.AgreeOn (names : List String) (bindings other : Bindings) : Prop where
  records : bindings.record.AgreeOn names other.record
  values : bindings.values = other.values

namespace Bindings.AgreeOn

variable {names fewer : List String} {bindings other : Bindings}

theorem mono (agree : bindings.AgreeOn names other) (contained : fewer ⊆ names) :
    bindings.AgreeOn fewer other :=
  ⟨fun name member => agree.records name (contained member), agree.values⟩

theorem field_eq {name : String} (agree : bindings.AgreeOn names other) (member : name ∈ names) :
    bindings.field name = other.field name :=
  agree.records name member

theorem node_eq (agree : bindings.AgreeOn names other) (reference : String) :
    bindings.node reference = other.node reference := by
  rw [node, node, agree.values]

theorem bind (agree : bindings.AgreeOn names other) (key : String) (value : Value) :
    (bindings.bind key value).AgreeOn names (other.bind key value) :=
  ⟨agree.records, congrArg (List.cons _) agree.values⟩

theorem bindAll (agree : bindings.AgreeOn names other) (values : List (String × Value)) :
    (bindings.bindAll values).AgreeOn names (other.bindAll values) := by
  induction values generalizing bindings other with
  | nil => exact agree
  | cons entry rest ih => exact ih (agree.bind entry.1 entry.2)

theorem bindStep (agree : bindings.AgreeOn names other) (node : String) (step : Step) :
    (Terrain.bindStep bindings node step).AgreeOn names (Terrain.bindStep other node step) :=
  (agree.bindAll step.columns).bind node step.value

end Bindings.AgreeOn

/-! ## Expressions -/

namespace Expression

variable {bindings other : Bindings}

theorem evaluate_eq_of_agree {expression : Expression}
    (agree : bindings.AgreeOn expression.fields other) :
    expression.evaluate bindings = expression.evaluate other := by
  induction expression with
  | binary operator left right ihLeft ihRight =>
      have first := ihLeft (agree.mono (List.subset_append_left _ _))
      have second := ihRight (agree.mono (List.subset_append_right _ _))
      simp only [evaluate, first, second]
  | not operand ih =>
      simp only [evaluate, ih agree]
  | literal value => rfl
  | field name => simp only [evaluate, agree.field_eq (List.mem_singleton_self name)]
  | node reference => simp only [evaluate, agree.node_eq reference]

theorem evaluateNamed_eq_of_agree {named : List (String × Expression)}
    (agree : bindings.AgreeOn ((named.map Prod.snd).flatMap fields) other) :
    evaluateNamed bindings named = evaluateNamed other named := by
  induction named with
  | nil => rfl
  | cons entry rest ih =>
      rw [List.map_cons, List.flatMap_cons] at agree
      have first := evaluate_eq_of_agree (agree.mono (List.subset_append_left _ _))
      have others := ih (agree.mono (List.subset_append_right _ _))
      simp only [evaluateNamed, first, others]

end Expression

/-! ## Nodes -/

/-- The record fields that a node reads. -/
def NodeKind.fields {callee : Type} (kind : NodeKind callee) : List String :=
  (match kind with
    | .input field => [field]
    | _ => []) ++ kind.expressions.flatMap Expression.fields

/-- Which flow a node calls does not matter for what it reads. -/
theorem NodeKind.fields_map {callee other : Type} (change : callee → other)
    (kind : NodeKind callee) : (kind.map change).fields = kind.fields := by
  cases kind <;> rfl

section

variable {bindings other : Bindings}

theorem NodeKind.stepAlone_eq_of_agree {callee : Type} {kind : NodeKind callee} (node : String)
    (agree : bindings.AgreeOn kind.fields other) :
    kind.stepAlone node bindings = kind.stepAlone node other := by
  cases kind with
  | start | subflowCall => rfl
  | input field => simp only [stepAlone, agree.field_eq (List.mem_singleton_self field)]
  | conditional expression | arithmetic expression | stringTransform _ expression =>
      have reads : bindings.AgreeOn expression.fields other :=
        agree.mono (by simp [fields, expressions])
      simp only [stepAlone, Expression.evaluate_eq_of_agree reads]
  | tableLookup lookup => simp only [stepAlone, Expression.evaluateNamed_eq_of_agree agree]
  | output spec =>
      have reads : bindings.AgreeOn spec.output.fields other :=
        agree.mono (by simp [fields, expressions])
      simp only [stepAlone, Expression.evaluate_eq_of_agree reads]

theorem NodeKind.step_eq_of_agree {kind : NodeKind Evaluator} (node : String)
    (agree : bindings.AgreeOn kind.fields other) :
    kind.step node bindings = kind.step node other := by
  cases kind with
  | subflowCall call =>
      simp only [step, SubflowCall.step, Expression.evaluateNamed_eq_of_agree agree]
  | _ => simp only [step, stepAlone_eq_of_agree node agree]

theorem OutputSpec.emit_eq_of_agree {callee : Type} {spec : OutputSpec}
    (agree : bindings.AgreeOn (.output spec : NodeKind callee).fields other) :
    spec.emit bindings = spec.emit other := by
  obtain ⟨output, message, extras⟩ := spec
  have first : bindings.AgreeOn output.fields other :=
    agree.mono (by simp [NodeKind.fields, NodeKind.expressions])
  have last : bindings.AgreeOn ((extras.map Prod.snd).flatMap Expression.fields) other :=
    agree.mono (by simp [NodeKind.fields, NodeKind.expressions])
  simp only [emit, Expression.evaluate_eq_of_agree first, Expression.evaluateNamed_eq_of_agree last]
  cases message with
  | none => rfl
  | some message =>
      have between : bindings.AgreeOn message.fields other :=
        agree.mono (by simp [NodeKind.fields, NodeKind.expressions])
      simp only [Expression.evaluate_eq_of_agree between]

end

/-! ## Walks -/

namespace Terrain

variable {terrain : Terrain} {bindings other : Bindings}

/-- Two walks go on together from a node that takes the same step in both. -/
theorem walk_succ_eq {hops position : Nat} {node : String} {kind : NodeKind Evaluator}
    (here : terrain.nodes[position]? = some ⟨node, kind⟩) (onward : kind.isTerminal = false)
    (same : kind.step node bindings = kind.step node other)
    (later : ∀ step next, terrain.walk hops next (bindStep bindings node step) =
      terrain.walk hops next (bindStep other node step)) :
    terrain.walk (hops + 1) position bindings = terrain.walk (hops + 1) position other := by
  cases kind with
  | output => cases onward
  | _ => simp only [walk, here, same, later]

/-- Two walks whose nodes read the same values are the same. -/
theorem walk_eq_of_agree {names : List String}
    (listed : ∀ node ∈ terrain.nodes, node.kind.fields ⊆ names)
    (agree : bindings.AgreeOn names other) (hops position : Nat) :
    terrain.walk hops position bindings = terrain.walk hops position other := by
  induction hops generalizing position bindings other with
  | zero => rfl
  | succ hops ih =>
      cases here : terrain.nodes[position]? with
      | none => simp only [walk, here]
      | some found =>
          obtain ⟨node, kind⟩ := found
          have reads := agree.mono (listed _ (List.mem_of_getElem? here))
          cases onward : kind.isTerminal with
          | true =>
              obtain ⟨spec, rfl⟩ := NodeKind.isTerminal_iff.1 onward
              simp only [walk, here, OutputSpec.emit_eq_of_agree reads]
          | false =>
              -- Both walks bind what the same step yields, so they still agree.
              exact walk_succ_eq here onward (NodeKind.step_eq_of_agree node reads)
                fun step next => ih (agree.bindStep node step) next

end Terrain

namespace Graph

theorem fieldsOf_eq (node : Node Graph) : fieldsOf node = node.kind.fields := by
  obtain ⟨id, kind⟩ := node
  cases kind <;> rfl

/-- A run reads the listed fields of its record only. -/
theorem run_eq_of_agree {graph : Graph} {record other : Record}
    (agree : record.AgreeOn graph.inputFields other) : graph.run record = graph.run other := by
  have atStart : (Bindings.initial record).AgreeOn graph.inputFields (.initial other) :=
    ⟨agree, rfl⟩
  rw [run_eq_walk, run_eq_walk]
  refine Terrain.walk_eq_of_agree ?_ atStart _ _
  intro node member name reads
  obtain ⟨node, isNode, rfl⟩ := List.mem_map.1 member
  rw [Node.map, NodeKind.fields_map, ← fieldsOf_eq] at reads
  exact mem_sortedNames.2 (List.mem_flatMap.2 ⟨node, isNode, reads⟩)

/-- **Only the listed fields matter.** Records that give the same values to the fields that a graph
reads have the same result, or fail with the same error, whatever other fields they have. -/
theorem evaluate_eq_of_agree_on_inputFields {graph : Graph} {record other : Record}
    (agree : record.AgreeOn graph.inputFields other) :
    graph.evaluate record = graph.evaluate other := by
  rw [evaluate, evaluate, run_eq_of_agree agree]

/-- A flow that calls `greeting`, which it embeds, for members only. -/
def greetMembers : FlowDocument where
  id := "main"
  version := "1"
  nodes := [⟨"start", "start", []⟩,
    ⟨"member", "if", [("predicate", .object [("field", .string "member")])]⟩,
    ⟨"greet", "subflow", [("flow", .string "greeting"),
      ("inputs", .object [("name", .object [("field", .string "name")])])]⟩,
    ⟨"greeted", "end", [("message", .object [("field", .string "title")]),
      ("output", .object [("node", .string "greet")])]⟩,
    ⟨"other", "end", [("output", .string "goodbye")]⟩]
  edges := [⟨"start", "member", none⟩, ⟨"member", "greet", some "then"⟩,
    ⟨"member", "other", some "else"⟩, ⟨"greet", "greeted", none⟩]
  subflows := [
    { id := "greeting"
      version := "1"
      nodes := [⟨"start", "start", []⟩,
        ⟨"name", "lowercase", [("source", .object [("field", .string "name")])]⟩,
        ⟨"end", "end", [("output", .object [("node", .string "name")])]⟩]
      edges := [⟨"start", "name", none⟩, ⟨"name", "end", none⟩]
      subflows := [] }]

/-- A record that gives just what `greetMembers` needs. -/
def briefRecord : Record :=
  .ofList [("member", .bool true), ("name", .string "Ada")]

/-- A record with one field more, and with one that is null. -/
def longRecord : Record :=
  .ofList [("age", .string "36"), ("member", .bool true), ("name", .string "Ada"), ("title", .null)]

/-- Neither a field that is not listed nor a listed one that is null makes a difference. -/
theorem evaluate_eq_of_greetMembers : ∃ graph,
    (Compiler.plain.compile greetMembers).1 = .ok graph ∧
      briefRecord.AgreeOn graph.inputFields longRecord ∧
        graph.evaluate briefRecord = graph.evaluate longRecord := by
  have listed : ((Compiler.plain.compile greetMembers).1.map inputFields).toOption =
      some ["member", "name", "title"] := by decide +kernel
  cases compiled : (Compiler.plain.compile greetMembers).1 with
  | error problem => simp [compiled, Except.map, Except.toOption] at listed
  | ok graph =>
      simp only [compiled, Except.map, Except.toOption, Option.some.injEq] at listed
      have agree : briefRecord.AgreeOn graph.inputFields longRecord := by
        rw [listed]
        exact List.forall_mem_cons.2 ⟨rfl, List.forall_mem_cons.2 ⟨rfl,
          List.forall_mem_singleton.2 rfl⟩⟩
      exact ⟨graph, rfl, agree, evaluate_eq_of_agree_on_inputFields agree⟩

end Graph

end DecisionFlow
