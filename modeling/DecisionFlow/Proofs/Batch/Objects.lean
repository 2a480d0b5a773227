import DecisionFlow.Proofs.Batch.Execution
import DecisionFlow.Proofs.Compilation.Derivation
import DecisionFlow.Proofs.Entries
import DecisionFlow.Proofs.Evaluation.Walk

/-!
# What the objects of a batch tell

The JSON form of a batch has an object for each record. A reader takes the member `error` for the
sign that the record failed, and finds the output, the message and each extra of a result under its
name. Names of extras are not restricted, however, and share the object with the other members: an
extra called `error` makes a result look like a failure, and of an extra called `output` or `message`
the value is lost.

An object tells what it should exactly if the record failed, or if the output node it came to has no
extra called `error` and puts different values under different names (`tells_iff`). So all objects do
if the output nodes of a graph have only extras with names of their own.
-/

set_option autoImplicit false

namespace DecisionFlow

/-! ## Members -/

/-- The member of an object with a certain name. -/
def Json.member? (json : Json) (name : String) : Option Json :=
  match json with
  | .object members => Entries.find? members name
  | _ => none

theorem Json.member?_ofMembers (members : List (String × Json)) (name : String) :
    (Json.ofMembers members).member? name = Entries.find? members.reverse name :=
  Entries.find?_ofList members name

/-! ## What an output node declares -/

namespace OutputSpec

/-- The expressions whose values a result shows, with the names under which it does. -/
def named (spec : OutputSpec) : List (String × Expression) :=
  spec.extras ++ [("output", spec.output), ("message", spec.message.getD (.literal .null))]

/-- The object has the value of each expression under its name. -/
def ShownBy (spec : OutputSpec) (bindings : Bindings) (object : Json) : Prop :=
  ∀ entry ∈ spec.named, ∃ value, entry.2.evaluate bindings = .ok value ∧
    object.member? entry.1 = some value.toJson

/-- Values under one name are the same. -/
def AgreesIn (spec : OutputSpec) (bindings : Bindings) : Prop :=
  ∀ entry ∈ spec.named, ∀ value, entry.2.evaluate bindings = .ok value →
    ∀ other ∈ spec.named, ∀ otherValue, other.2.evaluate bindings = .ok otherValue →
      entry.1 = other.1 → value.toJson = otherValue.toJson

/-- No extra looks like an error, and none stands in the way of another value. -/
structure KeepsApart (spec : OutputSpec) (bindings : Bindings) : Prop where
  noError : "error" ∉ spec.extras.map Prod.fst
  agrees : spec.AgreesIn bindings

end OutputSpec

section

variable {bindings : Bindings} {named : List (String × Expression)} {values : List (String × Value)}

/-- What is said of all values is said of all expressions that have them. -/
theorem forall_values_iff (inStep : List.Forall₂ (Evaluates bindings) named values)
    (property : String → Value → Prop) :
    (∀ value ∈ values, property value.1 value.2) ↔
      ∀ entry ∈ named, ∀ value, entry.2.evaluate bindings = .ok value → property entry.1 value := by
  constructor
  · intro all entry member value evaluated
    obtain ⟨found, isFound, sameName, isValue⟩ := exists_right_of_mem inStep member
    obtain rfl := Except.ok.inj (isValue.symm.trans evaluated)
    exact sameName ▸ all found isFound
  · intro all value member
    obtain ⟨entry, isEntry, sameName, isValue⟩ := exists_left_of_mem inStep member
    exact sameName ▸ all entry isEntry value.2 isValue

/-- Each expression has a value. -/
theorem forall_exists_value_iff (inStep : List.Forall₂ (Evaluates bindings) named values)
    (property : String → Value → Prop) :
    (∀ entry ∈ named, ∃ value, entry.2.evaluate bindings = .ok value ∧ property entry.1 value) ↔
      ∀ value ∈ values, property value.1 value.2 := by
  rw [forall_values_iff inStep property]
  refine forall₂_congr fun entry member => ?_
  obtain ⟨found, -, -, isValue⟩ := exists_right_of_mem inStep member
  constructor
  · rintro ⟨value, evaluated, holds⟩ other isOther
    obtain rfl := Except.ok.inj (evaluated.symm.trans isOther)
    exact holds
  · intro all
    exact ⟨found.2, isValue, all found.2 isValue⟩

end

/-! ## The object of a result -/

section

variable {spec : OutputSpec} {bindings : Bindings} {result : FlowResult}

/-- The values that a result shows, in the order in which they are written. -/
def FlowResult.shown (result : FlowResult) (extras : List (String × Value)) :
    List (String × Value) :=
  extras ++ [("output", result.output), ("message", result.message)]

/-- A result holds the values of what the node declares. -/
theorem exists_extras_of_emit (emitted : spec.emit bindings = .ok result) :
    ∃ extras, result.extras = Entries.ofList extras ∧
      List.Forall₂ (Evaluates bindings) spec.named (result.shown extras) := by
  rw [OutputSpec.emit_eq] at emitted
  obtain ⟨output, isOutput, emitted⟩ := bind_eq_ok_iff.1 emitted
  obtain ⟨message, isMessage, emitted⟩ := bind_eq_ok_iff.1 emitted
  obtain ⟨extras, isExtras, emitted⟩ := bind_eq_ok_iff.1 emitted
  cases emitted
  exact ⟨extras, rfl, List.rel_append (inStep_of_evaluateNamed isExtras)
    (.cons ⟨rfl, isOutput⟩ (.cons ⟨rfl, isMessage⟩ .nil))⟩

theorem member?_toJson {extras : List (String × Value)}
    (isExtras : result.extras = Entries.ofList extras) (name : String) :
    result.toJson.member? name =
      Entries.find?
        ((result.shown extras).map fun value => (value.1, value.2.toJson)).reverse name := by
  rw [FlowResult.toJson, Json.member?_ofMembers, isExtras, ← Entries.ofList_map, FlowResult.shown,
    List.map_append, List.reverse_append, List.reverse_append, Entries.find?_append,
    Entries.find?_append, Entries.find?_reverse (Entries.increasing_ofList _), Entries.find?_ofList]
  rfl

/-- An object has a member `error` exactly if there is such an extra. -/
theorem isSome_error_iff (emitted : spec.emit bindings = .ok result) :
    (result.toJson.member? "error").isSome = true ↔ "error" ∈ spec.extras.map Prod.fst := by
  obtain ⟨extras, isExtras, inStep⟩ := exists_extras_of_emit emitted
  rw [member?_toJson isExtras, ← Entries.mem_keys_iff, List.map_reverse, List.mem_reverse,
    List.map_map]
  change "error" ∈ (result.shown extras).map Prod.fst ↔ _
  rw [names_eq_of_inStep inStep]
  simp [OutputSpec.named]

/-- All values are shown exactly if those under one name are the same. -/
theorem shownBy_iff (emitted : spec.emit bindings = .ok result) :
    spec.ShownBy bindings result.toJson ↔ spec.AgreesIn bindings := by
  obtain ⟨extras, isExtras, inStep⟩ := exists_extras_of_emit emitted
  obtain ⟨members, isMembers⟩ : ∃ members : List (String × Json), members =
    (result.shown extras).map fun value => (value.1, value.2.toJson) := ⟨_, rfl⟩
  have kept : (∀ value ∈ result.shown extras,
        Entries.find? members.reverse value.1 = some value.2.toJson) ↔
      ∀ value ∈ result.shown extras, ∀ other ∈ result.shown extras, value.1 = other.1 →
        value.2.toJson = other.2.toJson := by
    have all := Entries.forall_find?_reverse_iff members
    rw [isMembers] at all ⊢
    simpa only [List.forall_mem_map] using all
  simp only [OutputSpec.ShownBy, member?_toJson isExtras, ← isMembers]
  rw [forall_exists_value_iff inStep fun name value =>
    Entries.find? members.reverse name = some value.toJson, kept,
    forall_values_iff inStep fun name value => ∀ other ∈ result.shown extras, name = other.1 →
      value.toJson = other.2.toJson]
  refine forall₂_congr fun entry _ => forall₂_congr fun value _ => ?_
  exact forall_values_iff inStep fun name other => entry.1 = name → value.toJson = other.toJson

end

/-! ## Rows and their objects -/

namespace Graph

/-- The walk for the record ends at an output node with this specification, where these values are
bound, and what is emitted there is the result. -/
inductive EndsAtOutput (graph : Graph) (record : Record) (spec : OutputSpec) : Bindings → Prop where
  | intro {places : List Place} {last : Place} {node : String}
      (journey : graph.terrain.Journey (graph.startPlace record) places (graph.run record))
      (isLast : places.getLast? = some last)
      (here : graph.nodes[last.position]? = some ⟨node, .output spec⟩)
      (emitted : graph.evaluate record = spec.emit last.bindings) :
      EndsAtOutput graph record spec last.bindings

/-- The object has a member `error` exactly if the record failed, and if it did not, it shows all that
is declared where the walk for the record ended. -/
structure Tells (graph : Graph) (record : Record) (row : Row) (object : Json) : Prop where
  error : (object.member? "error").isSome = true ↔ ∃ cause, row = .error cause
  shows : ∀ result, row = .ok result →
    ∃ spec bindings, graph.EndsAtOutput record spec bindings ∧ spec.ShownBy bindings object

variable {graph : Graph} {record : Record}

theorem EndsAtOutput.emit_eq {spec : OutputSpec} {bindings : Bindings}
    (ends : graph.EndsAtOutput record spec bindings) :
    spec.emit bindings = graph.evaluate record := by
  cases ends with
  | intro _ _ _ emitted => exact emitted.symm

/-- A result is emitted somewhere. -/
theorem Navigable.exists_endsAtOutput (navigable : Navigable graph) {result : FlowResult}
    (succeeded : graph.evaluate record = .ok result) :
    ∃ spec bindings, graph.EndsAtOutput record spec bindings ∧
      ∃ node, ⟨node, .output spec⟩ ∈ graph.nodes := by
  obtain ⟨places, journey⟩ := navigable.exists_journey_run record
  obtain ⟨last, node, spec, isLast, here, emitted⟩ := journey.exists_output succeeded
  obtain ⟨⟨id, kind⟩, isNode, same⟩ : ∃ other, graph.nodes[last.position]? = some other ∧
      other.map run = ⟨node, .output spec⟩ := by
    simpa [terrain] using here
  obtain ⟨rfl, isOutput⟩ := Node.mk.inj same
  obtain rfl := NodeKind.map_eq_output_iff.1 isOutput
  exact ⟨spec, last.bindings, .intro journey isLast isNode (succeeded.trans emitted.symm), id,
    List.mem_of_getElem? isNode⟩

/-- The object of a failed row has an error. -/
theorem tells_of_failed (cause : EvaluationError) :
    graph.Tells record (.error cause) (BatchResult.rowToJson (.error cause)) where
  error := by
    rw [BatchResult.rowToJson, Json.member?_ofMembers]
    exact ⟨fun _ => ⟨cause, rfl⟩, fun _ => rfl⟩
  shows := by rintro result ⟨⟩

/-- The object of a result tells what it should exactly if the names are kept apart. -/
theorem tells_rowToJson_iff {row : Row}
    (isRow : row = .error .deadline ∨ row = graph.evaluate record) :
    graph.Tells record row (BatchResult.rowToJson row) ↔ ∀ result, row = .ok result →
      ∃ spec bindings, graph.EndsAtOutput record spec bindings ∧ spec.KeepsApart bindings := by
  cases row with
  | error cause =>
      refine ⟨?_, fun _ => tells_of_failed cause⟩
      rintro _ result ⟨⟩
  | ok result =>
      have succeeded : graph.evaluate record = .ok result := by
        rcases isRow with ⟨⟨⟩⟩ | isRow
        exact isRow.symm
      constructor
      · rintro tells _ ⟨⟩
        obtain ⟨spec, bindings, ends, shown⟩ := tells.shows result rfl
        have emitted := ends.emit_eq.trans succeeded
        refine ⟨spec, bindings, ends, fun isError => ?_, (shownBy_iff emitted).1 shown⟩
        obtain ⟨cause, ⟨⟩⟩ := tells.error.1 ((isSome_error_iff emitted).2 isError)
      · intro apart
        obtain ⟨spec, bindings, ends, apart⟩ := apart result rfl
        have emitted := ends.emit_eq.trans succeeded
        refine ⟨⟨fun isError => ?_, ?_⟩, ?_⟩
        · exact absurd ((isSome_error_iff emitted).1 isError) apart.noError
        · rintro ⟨cause, ⟨⟩⟩
        · rintro _ ⟨⟩
          exact ⟨spec, bindings, ends, (shownBy_iff emitted).2 apart.agrees⟩

end Graph

/-- Names of their own keep values apart. -/
theorem OutputSpec.keepsApart_of_nodup {spec : OutputSpec}
    (distinct : ("error" :: spec.named.map Prod.fst).Nodup) (bindings : Bindings) :
    spec.KeepsApart bindings := by
  obtain ⟨noError, distinct⟩ := List.nodup_cons.1 distinct
  refine ⟨fun isExtra => noError ?_, ?_⟩
  · rw [named, List.map_append]
    exact List.mem_append_left _ isExtra
  · intro entry member value isValue other otherMember otherValue isOther sameName
    obtain rfl := List.inj_on_of_nodup_map distinct member otherMember sameName
    obtain rfl := Except.ok.inj (isValue.symm.trans isOther)
    rfl

/-! ## Batches -/

theorem runRecord_eq_or (expired : StateM Nat Bool) (graph : Graph) (record : Record) (asked : Nat) :
    ((runRecord expired graph record).run asked).1 = .error .deadline ∨
      ((runRecord expired graph record).run asked).1 = graph.evaluate record := by
  rw [runRecord, run_bind_eq]
  cases (expired.run asked).1 with
  | true => exact .inl rfl
  | false => exact .inr rfl

/-- Whatever the clock says, each row is late or the outcome of its record. -/
theorem inStep_runAll (expired : StateM Nat Bool) (graph : Graph) (records : List Record)
    (asked : Nat) :
    List.Forall₂ (fun record row => row = .error .deadline ∨ row = graph.evaluate record) records
      ((runAll expired graph records).run asked).1 := by
  induction records generalizing asked with
  | nil => exact .nil
  | cons record rest ih =>
      rw [runAll, run_bind_eq]
      exact .cons (runRecord_eq_or expired graph record asked) (ih _)

theorem outcomeBy_of_collect (times : Nat → Nat) (graph : Graph) {settings : Settings}
    (collects : settings.policy = .collect) (batch : RecordBatch) :
    ∃ rows, outcomeBy times graph settings batch = .ok ⟨rows⟩ ∧
      List.Forall₂ (fun record row => row = .error .deadline ∨ row = graph.evaluate record)
        batch.records rows := by
  obtain ⟨policy, strategy, timeout⟩ := settings
  subst collects
  refine ⟨_, ?_, inStep_runAll (isExpired (timetable times) ⟨.collect, strategy, timeout⟩ (times 0))
    graph batch.records 1⟩
  cases strategy <;> rfl

/-- A record of a batch with its row and the object of that. -/
inductive IsSlot (records : List Record) (rows : List Row) (objects : List Json) :
    Record → Row → Json → Prop where
  | intro {index : Nat} {record : Record} {row : Row} {object : Json}
      (isRecord : records[index]? = some record) (isRow : rows[index]? = some row)
      (isObject : objects[index]? = some object) : IsSlot records rows objects record row object

/-- **Objects tell results from failures.** A batch of a compiled graph that collects errors has a row
and an object for each record. The object of a slot has a member `error` exactly if the slot failed,
and shows the output, the message and every declared extra of a result under its name, if and only
if the slot failed, or the walk for its record ended at an output node that declares no extra called
`error` and gives one value to each name. In particular all objects do so if each output node of the
graph declares extras with names of their own, none of which is `error`, `output` or `message`. -/
theorem tells_iff {compiler : Compiler} {document : FlowDocument} {graph : Graph}
    (compiled : (compiler.compile document).1 = .ok graph) (times : Nat → Nat) {settings : Settings}
    (collects : settings.policy = .collect) (batch : RecordBatch) :
    ∃ rows objects, outcomeBy times graph settings batch = .ok ⟨rows⟩ ∧
      BatchResult.toJson ⟨rows⟩ = .array objects ∧ rows.length = batch.records.length ∧
      objects.length = batch.records.length ∧
      (∀ record row object, IsSlot batch.records rows objects record row object →
        (row = .error .deadline ∨ row = graph.evaluate record) ∧
        (graph.Tells record row object ↔ ∀ result, row = .ok result →
          ∃ spec bindings, graph.EndsAtOutput record spec bindings ∧ spec.KeepsApart bindings)) ∧
      ((∀ node ∈ graph.nodes, ∀ spec, node.kind = .output spec →
          ("error" :: spec.named.map Prod.fst).Nodup) →
        ∀ record row object, IsSlot batch.records rows objects record row object →
          graph.Tells record row object) := by
  obtain ⟨rows, outcome, inStep⟩ := outcomeBy_of_collect times graph collects batch
  have slot {record : Record} {row : Row} {object : Json}
      (isSlot : IsSlot batch.records rows (rows.map BatchResult.rowToJson) record row object) :
      (row = .error .deadline ∨ row = graph.evaluate record) ∧
        object = BatchResult.rowToJson row := by
    obtain ⟨isRecord, isRow, isObject⟩ := isSlot
    rw [List.getElem?_map, isRow] at isObject
    obtain ⟨inside, rfl⟩ := List.getElem?_eq_some_iff.1 isRecord
    obtain ⟨rowInside, rfl⟩ := List.getElem?_eq_some_iff.1 isRow
    exact ⟨inStep.get inside rowInside, (Option.some.inj isObject).symm⟩
  refine ⟨rows, rows.map BatchResult.rowToJson, outcome, rfl, inStep.length_eq.symm,
    (List.length_map _).trans inStep.length_eq.symm, ?_, ?_⟩
  · intro record row object isSlot
    obtain ⟨isRow, rfl⟩ := slot isSlot
    exact ⟨isRow, Graph.tells_rowToJson_iff isRow⟩
  · intro distinct record row object isSlot
    obtain ⟨isRow, rfl⟩ := slot isSlot
    refine (Graph.tells_rowToJson_iff isRow).2 ?_
    rintro result rfl
    obtain ⟨_, -, -, assembled⟩ := Compiler.exists_compiles compiled
    have succeeded : graph.evaluate record = .ok result := by
      rcases isRow with ⟨⟨⟩⟩ | isRow
      exact isRow.symm
    obtain ⟨spec, bindings, ends, node, isNode⟩ :=
      (Graph.Navigable.of_assemble assembled).exists_endsAtOutput succeeded
    exact ⟨spec, bindings, ends,
      OutputSpec.keepsApart_of_nodup (distinct _ isNode spec rfl) bindings⟩

/-- A flow whose result has an extra with some name. -/
def remarkFlow (name : String) : FlowDocument where
  id := "main"
  version := "1"
  nodes := [⟨"start", "start", []⟩,
    ⟨"end", "output", [("extras", .object [(name, .string "remark")]), ("output", .string "done")]⟩]
  edges := [⟨"start", "end", none⟩]
  subflows := []

/-- What the output node of the flow says. -/
def remarkOutput (name : String) : OutputSpec where
  output := .literal (.string "done")
  message := none
  extras := [(name, .literal (.string "remark"))]

/-- The graph of the flow. -/
def remarkGraph (name : String) : Graph where
  id := "main"
  version := "1"
  nodes := [⟨"start", .start⟩, ⟨"end", .output (remarkOutput name)⟩]
  edges := [⟨"start", .next, "end"⟩]
  index := .ofList [("start", 0), ("end", 1)]
  successors := [⟨some 1, none, none⟩, .empty]
  start := 0

/-- The result of the flow. -/
def remarkResult (name : String) : FlowResult where
  output := .string "done"
  message := .null
  extras := [(name, .string "remark")]

/-- All walks end at the only output node. -/
theorem spec_eq_of_endsAtOutput {name : String} {record : Record} {spec : OutputSpec}
    {bindings : Bindings} (ends : (remarkGraph name).EndsAtOutput record spec bindings) :
    spec = remarkOutput name := by
  obtain ⟨-, -, here, -⟩ := ends
  have member := List.mem_of_getElem? here
  rcases List.mem_cons.1 member with isStart | isEnd
  · cases isStart
  · cases List.mem_singleton.1 isEnd
    rfl

/-- A remark with a name of its own is found under it. -/
theorem tells_iff_of_remark :
    (Compiler.plain.compile (remarkFlow "remark")).1 = .ok (remarkGraph "remark") ∧
      Settings.standard.policy = .collect ∧
      ∃ rows objects, outcomeBy id (remarkGraph "remark") .standard ⟨[.empty]⟩ = .ok ⟨rows⟩ ∧
        BatchResult.toJson ⟨rows⟩ = .array objects ∧
        IsSlot [.empty] rows objects .empty (.ok (remarkResult "remark"))
          (remarkResult "remark").toJson ∧
        (remarkGraph "remark").Tells .empty (.ok (remarkResult "remark"))
          (remarkResult "remark").toJson := by
  have compiled : (Compiler.plain.compile (remarkFlow "remark")).1 = .ok (remarkGraph "remark") := by
    with_unfolding_all rfl
  have collects : Settings.standard.policy = .collect := rfl
  obtain ⟨rows, objects, outcome, isArray, -, -, -, told⟩ :=
    tells_iff compiled id collects ⟨[.empty]⟩
  have isRows : outcomeBy id (remarkGraph "remark") .standard ⟨[.empty]⟩ =
      .ok ⟨[.ok (remarkResult "remark")]⟩ := rfl
  cases isRows.symm.trans outcome
  cases isArray
  have slot : IsSlot [.empty] [.ok (remarkResult "remark")] [(remarkResult "remark").toJson] .empty
      (.ok (remarkResult "remark")) (remarkResult "remark").toJson :=
    @IsSlot.intro _ _ _ 0 _ _ _ rfl rfl rfl
  refine ⟨compiled, collects, _, _, outcome, rfl, slot, told ?_ _ _ _ slot⟩
  intro node member spec isOutput
  rcases List.mem_cons.1 member with rfl | isEnd
  · cases isOutput
  · cases List.mem_singleton.1 isEnd
    cases isOutput
    decide

/-- A remark called `error` makes a result look like a failure, and one called `message` is lost. -/
theorem not_tells_of_misnamed_remark :
    ((Compiler.plain.compile (remarkFlow "error")).1 = .ok (remarkGraph "error") ∧
      outcomeBy id (remarkGraph "error") .standard ⟨[.empty]⟩ =
        .ok ⟨[.ok (remarkResult "error")]⟩ ∧
      ((remarkResult "error").toJson.member? "error").isSome = true ∧
      ¬ (remarkGraph "error").Tells .empty (.ok (remarkResult "error"))
        (BatchResult.rowToJson (.ok (remarkResult "error")))) ∧
    (Compiler.plain.compile (remarkFlow "message")).1 = .ok (remarkGraph "message") ∧
      outcomeBy id (remarkGraph "message") .standard ⟨[.empty]⟩ =
        .ok ⟨[.ok (remarkResult "message")]⟩ ∧
      (remarkResult "message").toJson.member? "message" = some .null ∧
      ¬ (remarkGraph "message").Tells .empty (.ok (remarkResult "message"))
        (BatchResult.rowToJson (.ok (remarkResult "message"))) := by
  have error : ((remarkResult "error").toJson.member? "error").isSome = true := by rfl
  have message : (remarkResult "message").toJson.member? "message" = some .null := by rfl
  refine ⟨⟨by with_unfolding_all rfl, rfl, error, fun tells => ?_⟩, by with_unfolding_all rfl, rfl,
    message, fun tells => ?_⟩
  · obtain ⟨cause, ⟨⟩⟩ := tells.error.1 error
  · obtain ⟨spec, bindings, ends, shown⟩ := tells.shows _ rfl
    obtain rfl := spec_eq_of_endsAtOutput ends
    obtain ⟨_, ⟨⟩, found⟩ := shown _ List.mem_cons_self
    cases found.symm.trans message

end DecisionFlow
