import DecisionFlow.Proofs.Compilation.Derivation

/-!
# The course of a compilation

While a document is compiled, the flows that it calls are compiled below it, and so on. Which of these
nested compilations begin, below which stack and with what was gathered until then, does not depend on
the allowance (`Begins`). The allowance only cuts a run short: with an allowance of some number, the run
ends for want of it exactly if at some moment that many flows are being compiled at once
(`runsOut_iff_begins`), and any larger allowance leads to the same end as one that was enough
(`compileWithin_continues`).
-/

set_option autoImplicit false

namespace DecisionFlow

namespace Compiler

variable {compiler : Compiler}

/-! ## Steps that fail -/

section

variable {compile : List String → FlowDocument → Compilation Graph}
  {find : String → VersionRequest → Compilation Graph} {before after : Progress}
  {problem : CompileError}

/-- A called flow that is neither active nor stored is compiled and then stored. -/
theorem callee_run_of_missing {stack : List String} {flow : String} {request : VersionRequest}
    {document : FlowDocument}
    (answer : compiler.findDocument before.embedded flow request = .ok document)
    (inactive : document.key ∉ stack) (missing : before.cache.lookup document.key = none) :
    (compiler.callee compile stack flow request).run before =
      (compile stack document >>= fun graph => do
        modify fun progress => progress.store document.key graph
        return graph).run before := by
  rw [callee, run_bind_of_ok (run_get before)]
  simp only [answer]
  rw [run_bind_of_ok (run_pure document before), if_neg inactive, run_bind_of_ok (run_get before)]
  simp only [missing]
  rfl

/-- A called flow cannot be had, is being compiled, or fails to compile. -/
theorem callee_run_eq_error_iff {stack : List String} {flow : String} {request : VersionRequest} :
    (compiler.callee compile stack flow request).run before = .error problem after ↔
      (∃ reason, compiler.findDocument before.embedded flow request = .error reason ∧
        .reference reason = problem ∧ before = after) ∨
      ∃ document, compiler.findDocument before.embedded flow request = .ok document ∧
        ((document.key ∈ stack ∧ .reference (.circular (closedCall stack document.key)) = problem ∧
            before = after) ∨
          document.key ∉ stack ∧ before.cache.lookup document.key = none ∧
            (compile stack document).run before = .error problem after) := by
  cases answer : compiler.findDocument before.embedded flow request with
  | error reason => simp [callee, answer]
  | ok document =>
      by_cases active : document.key ∈ stack
      · simp [callee, answer, active]
      · cases stored : before.cache.lookup document.key with
        | some found => simp [callee, answer, active, stored, -List.lookup_eq_none_iff]
        | none =>
            rw [callee_run_of_missing answer active stored, run_bind_eq_error_iff]
            simp [active, stored, -bind_pure_comp, -List.lookup_eq_none_iff]

theorem resolveCall_run_eq_error_iff {callee other : Type} {kind : NodeKind callee}
    {find : SubflowCall callee → Compilation other} :
    (kind.resolveCall find).run before = .error problem after ↔
      ∃ call, kind = .subflowCall call ∧ (find call).run before = .error problem after := by
  cases kind with
  | subflowCall call => simp [NodeKind.resolveCall]
  | _ => simp [NodeKind.resolveCall]

/-- A node is of no known kind, it cannot be read, or its callee fails. -/
theorem compileNode_run_eq_error_iff {node : NodeDocument} :
    (compiler.compileNode find node).run before = .error problem after ↔
      (compiler.kinds.find? node.kind = none ∧ .document (.unknownKind node.id node.kind) = problem ∧
        before = after) ∨
      ∃ reader, compiler.kinds.find? node.kind = some reader ∧
        ((∃ reason, reader node = .error reason ∧ .document reason = problem ∧ before = after) ∨
          ∃ call, reader node = .ok (.subflowCall call) ∧
            (find call.flow call.version).run before = .error problem after) := by
  cases known : compiler.kinds.find? node.kind with
  | none => simp [compileNode, known]
  | some reader =>
      cases read : reader node with
      | error reason => simp [compileNode, known, read]
      | ok kind =>
          simp [compileNode, known, read, resolveCall_run_eq_error_iff]

/-- The first node that fails comes after others that compile. -/
theorem exists_failing_node {documents : List NodeDocument}
    (run : (compiler.compileNodes find documents).run before = .error problem after) :
    ∃ earlier node later nodes between, documents = earlier ++ node :: later ∧
      (compiler.compileNodes find earlier).run before = .ok nodes between ∧
        (compiler.compileNode find node).run between = .error problem after := by
  induction documents generalizing before with
  | nil => cases run
  | cons node rest ih =>
      rcases run_bind_eq_error_iff.1 run with failed | ⟨compiled, between, first, run⟩
      · exact ⟨[], node, rest, [], before, rfl, rfl, failed⟩
      · rcases run_bind_eq_error_iff.1 run with run | ⟨_, _, _, run⟩
        · obtain ⟨earlier, failing, later, nodes, last, rfl, others, failed⟩ := ih run
          refine ⟨node :: earlier, failing, later, compiled :: nodes, last, rfl, ?_, failed⟩
          exact run_bind_eq_ok_iff.2 ⟨_, _, first, run_bind_eq_ok_iff.2 ⟨_, _, others, rfl⟩⟩
        · cases run

/-- Nodes fail when one of them fails after the ones before it. -/
theorem compileNodes_run_eq_error {earlier later : List NodeDocument} {node : NodeDocument}
    {nodes : List (Node Graph)} {between : Progress}
    (compiled : (compiler.compileNodes find earlier).run before = .ok nodes between)
    (failed : (compiler.compileNode find node).run between = .error problem after) :
    (compiler.compileNodes find (earlier ++ node :: later)).run before = .error problem after := by
  induction earlier generalizing before nodes with
  | nil =>
      cases compiled
      exact run_bind_eq_error_iff.2 (.inl failed)
  | cons first rest ih =>
      obtain ⟨one, middle, firstRun, run⟩ := run_bind_eq_ok_iff.1 compiled
      obtain ⟨others, last, restRun, run⟩ := run_bind_eq_ok_iff.1 run
      cases run
      exact run_bind_eq_error_iff.2 (.inr ⟨one, middle, firstRun,
        run_bind_eq_error_iff.2 (.inl (ih restRun))⟩)

theorem assemble_run_eq_error_iff {document : FlowDocument} {nodes : List (Node Graph)} :
    (assemble document nodes).run before = .error problem after ↔
      ∃ reason, Graph.assemble document.id document.version nodes document.edges = .error reason ∧
        .graph reason = problem ∧ before = after := by
  cases assembled : Graph.assemble document.id document.version nodes document.edges with
  | error reason => simp [assemble, assembled]
  | ok built =>
      have run : (assemble document nodes).run before = .ok built (before.remark built) :=
        assemble_run_eq_ok_iff.2 ⟨assembled, rfl⟩
      rw [run]
      simp

/-- A document has no id, its nodes fail, or they form no graph. -/
theorem compileWithin_succ_run_eq_error_iff {allowance : Nat} {stack : List String}
    {document : FlowDocument} :
    (compiler.compileWithin (allowance + 1) stack document).run before = .error problem after ↔
      (Text.isBlankText document.id = true ∧ .document .blankFlowId = problem ∧ before = after) ∨
      Text.isBlankText document.id = false ∧
        ((compiler.compileNodes
          (compiler.callee (compiler.compileWithin allowance) (stack ++ [document.key]))
          document.nodes).run (before.embed document) = .error problem after ∨
        ∃ nodes, (compiler.compileNodes
          (compiler.callee (compiler.compileWithin allowance) (stack ++ [document.key]))
          document.nodes).run (before.embed document) = .ok nodes after ∧
            ∃ reason, Graph.assemble document.id document.version nodes document.edges =
              .error reason ∧ .graph reason = problem) := by
  cases blank : Text.isBlankText document.id with
  | true => simp [compileWithin, blank]
  | false =>
      simp only [compileWithin, blank, Bool.false_eq_true, ↓reduceIte, run_bind_eq_error_iff,
        assemble_run_eq_error_iff, false_and, false_or, true_and]
      constructor
      · rintro (⟨⟨⟩⟩ | ⟨_, _, ⟨⟩, failed | ⟨nodes, between, compiled, reason, unfit, same, rfl⟩⟩)
        · exact .inl failed
        · exact .inr ⟨nodes, compiled, reason, unfit, same⟩
      · rintro (failed | ⟨nodes, compiled, reason, unfit, same⟩)
        · exact .inr ⟨_, _, rfl, .inl failed⟩
        · exact .inr ⟨_, _, rfl, .inr ⟨nodes, after, compiled, reason, unfit, same, rfl⟩⟩

/-- A compilation fails if its run does. -/
theorem compile_eq_error_iff {document : FlowDocument} :
    (compiler.compile document).1 = .error problem ↔
      ∃ after, (compiler.compileWithin (compiler.nesting document) [] document).run
        (initialProgress document) = .error problem after := by
  unfold compile
  cases (compiler.compileWithin (compiler.nesting document) [] document).run
      (initialProgress document) <;> simp

end

/-! ## Running out of the allowance -/

/-- The step ends because flows call each other more deeply than the allowance permits. -/
def RunsOut {α : Type} (step : Compilation α) (before : Progress) : Prop :=
  ∃ flow after, step.run before = .error (.nestedTooDeeply flow) after

section

variable {compile : List String → FlowDocument → Compilation Graph}
  {find : String → VersionRequest → Compilation Graph} {before : Progress}

theorem runsOut_bind_iff {α β : Type} {step : Compilation α} {next : α → Compilation β} :
    RunsOut (step >>= next) before ↔ RunsOut step before ∨
      ∃ value between, step.run before = .ok value between ∧ RunsOut (next value) between := by
  constructor
  · rintro ⟨flow, after, run⟩
    rcases run_bind_eq_error_iff.1 run with first | ⟨value, between, first, later⟩
    · exact .inl ⟨flow, after, first⟩
    · exact .inr ⟨value, between, first, flow, after, later⟩
  · rintro (⟨flow, after, first⟩ | ⟨value, between, first, flow, after, later⟩)
    · exact ⟨flow, after, run_bind_eq_error_iff.2 (.inl first)⟩
    · exact ⟨flow, after, run_bind_eq_error_iff.2 (.inr ⟨value, between, first, later⟩)⟩

/-- Finding a called flow takes an allowance only if the flow has to be compiled. -/
theorem runsOut_callee_iff {stack : List String} {flow : String} {request : VersionRequest} :
    RunsOut (compiler.callee compile stack flow request) before ↔
      ∃ document, compiler.findDocument before.embedded flow request = .ok document ∧
        document.key ∉ stack ∧ before.cache.lookup document.key = none ∧
          RunsOut (compile stack document) before := by
  constructor
  · rintro ⟨key, after, run⟩
    rcases callee_run_eq_error_iff.1 run with ⟨_, -, ⟨⟩, -⟩ |
      ⟨document, answer, ⟨-, ⟨⟩, -⟩ | ⟨inactive, missing, failed⟩⟩
    exact ⟨document, answer, inactive, missing, key, after, failed⟩
  · rintro ⟨document, answer, inactive, missing, key, after, failed⟩
    exact ⟨key, after,
      callee_run_eq_error_iff.2 (.inr ⟨document, answer, .inr ⟨inactive, missing, failed⟩⟩)⟩

theorem runsOut_compileNode_iff {node : NodeDocument} :
    RunsOut (compiler.compileNode find node) before ↔
      ∃ reader call, compiler.kinds.find? node.kind = some reader ∧
        reader node = .ok (.subflowCall call) ∧ RunsOut (find call.flow call.version) before := by
  constructor
  · rintro ⟨flow, after, run⟩
    rcases compileNode_run_eq_error_iff.1 run with ⟨-, ⟨⟩, -⟩ |
      ⟨reader, known, ⟨_, -, ⟨⟩, -⟩ | ⟨call, read, failed⟩⟩
    exact ⟨reader, call, known, read, flow, after, failed⟩
  · rintro ⟨reader, call, known, read, flow, after, failed⟩
    exact ⟨flow, after,
      compileNode_run_eq_error_iff.2 (.inr ⟨reader, known, .inr ⟨call, read, failed⟩⟩)⟩

theorem runsOut_compileWithin_succ_iff {allowance : Nat} {stack : List String}
    {document : FlowDocument} :
    RunsOut (compiler.compileWithin (allowance + 1) stack document) before ↔
      Text.isBlankText document.id = false ∧
        RunsOut (compiler.compileNodes
          (compiler.callee (compiler.compileWithin allowance) (stack ++ [document.key]))
          document.nodes) (before.embed document) := by
  constructor
  · rintro ⟨flow, after, run⟩
    rcases compileWithin_succ_run_eq_error_iff.1 run with ⟨-, ⟨⟩, -⟩ |
      ⟨named, failed | ⟨_, -, _, -, ⟨⟩⟩⟩
    exact ⟨named, flow, after, failed⟩
  · rintro ⟨named, flow, after, failed⟩
    exact ⟨flow, after, compileWithin_succ_run_eq_error_iff.2 (.inr ⟨named, .inl failed⟩)⟩

end

/-! ## Larger allowances -/

/-- The second step ends like the first one, unless that runs out of its allowance. -/
def Continues {α : Type} (less more : Compilation α) : Prop :=
  ∀ before, RunsOut less before ∨ more.run before = less.run before

namespace Continues

variable {α β : Type}

theorem refl (step : Compilation α) : Continues step step :=
  fun _ => .inr rfl

theorem bind {less more : Compilation α} {next next' : α → Compilation β}
    (first : Continues less more) (later : ∀ value, Continues (next value) (next' value)) :
    Continues (less >>= next) (more >>= next') := by
  intro before
  rcases first before with out | same
  · exact .inl (runsOut_bind_iff.2 (.inl out))
  · cases run : less.run before with
    | error problem after =>
        rw [run] at same
        refine .inr ?_
        rw [run_bind_eq_error_iff.2 (.inl same), run_bind_eq_error_iff.2 (.inl run)]
    | ok value between =>
        rcases later value between with out | sameLater
        · exact .inl (runsOut_bind_iff.2 (.inr ⟨value, between, run, out⟩))
        · refine .inr ?_
          rw [run_bind_of_ok (same.trans run), run_bind_of_ok run, sameLater]

variable {compile compile' : List String → FlowDocument → Compilation Graph}
  {find find' : String → VersionRequest → Compilation Graph}

theorem callee (below : ∀ stack document, Continues (compile stack document) (compile' stack document))
    (stack : List String) (flow : String) (request : VersionRequest) :
    Continues (compiler.callee compile stack flow request)
      (compiler.callee compile' stack flow request) := by
  intro before
  cases answer : compiler.findDocument before.embedded flow request with
  | error reason => exact .inr (by simp [Compiler.callee, answer])
  | ok document =>
      by_cases active : document.key ∈ stack
      · exact .inr (by simp [Compiler.callee, answer, active])
      · cases stored : before.cache.lookup document.key with
        | some found =>
            exact .inr (by simp [Compiler.callee, answer, active, stored, -List.lookup_eq_none_iff])
        | none =>
            rcases (below stack document).bind (fun graph => .refl _) before with out | same
            · obtain ⟨key, after, run⟩ := out
              exact .inl ⟨key, after, (callee_run_of_missing answer active stored).trans run⟩
            · refine .inr ?_
              rw [callee_run_of_missing answer active stored, callee_run_of_missing answer active stored]
              exact same

theorem resolveCall {callee other : Type} {find find' : SubflowCall callee → Compilation other}
    (found : ∀ call, Continues (find call) (find' call)) (kind : NodeKind callee) :
    Continues (kind.resolveCall find) (kind.resolveCall find') := by
  cases kind with
  | subflowCall call => exact (found call).bind fun _ => .refl _
  | _ => exact .refl _

theorem compileNode (found : ∀ flow request, Continues (find flow request) (find' flow request))
    (node : NodeDocument) :
    Continues (compiler.compileNode find node) (compiler.compileNode find' node) := by
  unfold Compiler.compileNode
  split
  · exact .refl _
  · split
    · exact .refl _
    · exact (resolveCall (fun call => found call.flow call.version) _).bind fun _ => .refl _

theorem compileNodes (found : ∀ flow request, Continues (find flow request) (find' flow request))
    (nodes : List NodeDocument) :
    Continues (compiler.compileNodes find nodes) (compiler.compileNodes find' nodes) := by
  induction nodes with
  | nil => exact .refl _
  | cons node rest ih =>
      exact (compileNode found node).bind fun _ => ih.bind fun _ => .refl _

end Continues

/-- **An allowance that is enough leads to the same end as any larger one.** -/
theorem compileWithin_continues {less more : Nat} (fewer : less ≤ more) (stack : List String)
    (document : FlowDocument) :
    Continues (compiler.compileWithin less stack document)
      (compiler.compileWithin more stack document) := by
  induction less generalizing more stack document with
  | zero => exact fun before => .inl ⟨document.key, before, rfl⟩
  | succ less ih =>
      obtain ⟨more, rfl⟩ : ∃ other, more = other + 1 := ⟨more - 1, by omega⟩
      have below := ih (Nat.le_of_succ_le_succ fewer)
      cases blank : Text.isBlankText document.id with
      | true => exact fun before => .inr (by simp [compileWithin, blank])
      | false =>
          simp only [compileWithin, blank, Bool.false_eq_true, ↓reduceIte]
          refine .bind (.refl _) fun _ => ?_
          exact (Continues.compileNodes (Continues.callee below _) _).bind fun _ => .refl _

/-! ## Derivations are run -/

section

variable {node : NodeDocument} {reader : NodeReader}

/-- A node that calls no flow is compiled by reading it. -/
theorem compileNode_run_of_alone {kind : NodeKind Graph}
    (known : compiler.kinds.find? node.kind = some reader) (alone : kind.callee? = none)
    (read : reader node = .ok kind.unresolved)
    (find : String → VersionRequest → Compilation Graph) (before : Progress) :
    (compiler.compileNode find node).run before = .ok ⟨node.id, kind⟩ before :=
  compileNode_run_eq_ok_iff.2 ⟨reader, known, rfl, read, .inl ⟨alone, rfl⟩⟩

/-- A node that calls a flow is compiled by reading it and finding the graph of the flow. -/
theorem compileNode_run_of_call {call : SubflowCall Graph}
    {find : String → VersionRequest → Compilation Graph} {before after : Progress}
    (known : compiler.kinds.find? node.kind = some reader)
    (read : reader node = .ok (NodeKind.subflowCall call).unresolved)
    (found : (find call.flow call.version).run before = .ok call.target after) :
    (compiler.compileNode find node).run before = .ok ⟨node.id, .subflowCall call⟩ after :=
  compileNode_run_eq_ok_iff.2 ⟨reader, known, rfl, read, .inr ⟨call, rfl, found⟩⟩

end

mutual

/-- A derivation is followed by every run that does not run out of its allowance. -/
theorem Compiles.runs {stack : List String} {document : FlowDocument} {before after : Progress}
    {graph : Graph} :
    Compiles compiler stack document before graph after → ∀ allowance,
      RunsOut (compiler.compileWithin allowance stack document) before ∨
        (compiler.compileWithin allowance stack document).run before = .ok graph after
  | .intro _ _ _, 0 => .inl ⟨_, _, rfl⟩
  | .intro named compiled assembled, allowance + 1 => by
    rcases compiled.runs allowance with out | run
    · exact .inl (runsOut_compileWithin_succ_iff.2 ⟨named, out⟩)
    · exact .inr (compileWithin_succ_run_eq_ok_iff.2 ⟨named, _, _, run, assembled, rfl⟩)

theorem CompilesNodes.runs {stack : List String} {documents : List NodeDocument}
    {before after : Progress} {nodes : List (Node Graph)} :
    CompilesNodes compiler stack documents before nodes after → ∀ allowance,
      RunsOut (compiler.compileNodes
          (compiler.callee (compiler.compileWithin allowance) stack) documents) before ∨
        (compiler.compileNodes (compiler.callee (compiler.compileWithin allowance) stack)
          documents).run before = .ok nodes after
  | .nil, _ => .inr rfl
  | .alone known alone read others, allowance => by
    have first := compileNode_run_of_alone known alone read
      (compiler.callee (compiler.compileWithin allowance) stack) before
    rcases others.runs allowance with out | run
    · exact .inl (runsOut_bind_iff.2 (.inr ⟨_, _, first, runsOut_bind_iff.2 (.inl out)⟩))
    · exact .inr (run_bind_eq_ok_iff.2 ⟨_, _, first, run_bind_eq_ok_iff.2 ⟨_, _, run, rfl⟩⟩)
  | .call known read found others, allowance => by
    rcases found.runs allowance with out | foundRun
    · exact .inl (runsOut_bind_iff.2 (.inl (runsOut_compileNode_iff.2 ⟨_, _, known, read, out⟩)))
    · have first := compileNode_run_of_call known read foundRun
      rcases others.runs allowance with out | run
      · exact .inl (runsOut_bind_iff.2 (.inr ⟨_, _, first, runsOut_bind_iff.2 (.inl out)⟩))
      · exact .inr (run_bind_eq_ok_iff.2 ⟨_, _, first, run_bind_eq_ok_iff.2 ⟨_, _, run, rfl⟩⟩)

theorem Finds.runs {stack : List String} {flow : String} {request : VersionRequest}
    {before after : Progress} {graph : Graph} :
    Finds compiler stack flow request before graph after → ∀ allowance,
      RunsOut (compiler.callee (compiler.compileWithin allowance) stack flow request) before ∨
        (compiler.callee (compiler.compileWithin allowance) stack flow request).run before =
          .ok graph after
  | .cached answer inactive stored, _ =>
    .inr (callee_run_eq_ok_iff.2 ⟨_, answer, inactive, .inl ⟨stored, rfl⟩⟩)
  | .compiled answer inactive missing compiles, allowance => by
    rcases compiles.runs allowance with out | run
    · exact .inl (runsOut_callee_iff.2 ⟨_, answer, inactive, missing, out⟩)
    · exact .inr (callee_run_eq_ok_iff.2 ⟨_, answer, inactive, .inr ⟨missing, _, run, rfl⟩⟩)

end

/-! ## Nested compilations -/

/-- In the compilation of a document below a stack, the nodes before some call compile, and then the call
asks for a flow. -/
inductive Asks (compiler : Compiler) (stack : List String) (document : FlowDocument)
    (before : Progress) : String → VersionRequest → Progress → Prop where
  | intro {earlier later : List NodeDocument} {node : NodeDocument} {nodes : List (Node Graph)}
      {between : Progress} {reader : NodeReader} {call : SubflowCall Unit}
      (named : Text.isBlankText document.id = false)
      (listed : document.nodes = earlier ++ node :: later)
      (compiled : CompilesNodes compiler (stack ++ [document.key]) earlier (before.embed document)
        nodes between)
      (known : compiler.kinds.find? node.kind = some reader)
      (read : reader node = .ok (.subflowCall call)) :
      Asks compiler stack document before call.flow call.version between

/-- In the compilation of a document below a stack, a call asks for a flow and is answered with another
document. -/
inductive ReachesCall (compiler : Compiler) (stack : List String) (document : FlowDocument)
    (before : Progress) : FlowDocument → Progress → Prop where
  | intro {flow : String} {request : VersionRequest} {callee : FlowDocument} {between : Progress}
      (asks : Asks compiler stack document before flow request between)
      (answer : compiler.findDocument between.embedded flow request = .ok callee) :
      ReachesCall compiler stack document before callee between

/-- While the main flow is compiled, the compilation of a document begins below a stack: that of the
main flow itself, or that of a flow that is called from one and neither active nor stored. -/
inductive Begins (compiler : Compiler) (main : FlowDocument) :
    List String → FlowDocument → Progress → Prop where
  | main : Begins compiler main [] main (initialProgress main)
  | call {stack : List String} {document callee : FlowDocument} {before between : Progress}
      (begins : Begins compiler main stack document before)
      (reached : ReachesCall compiler stack document before callee between)
      (inactive : callee.key ∉ stack ++ [document.key])
      (missing : between.cache.lookup callee.key = none) :
      Begins compiler main (stack ++ [document.key]) callee between

section

variable {allowance : Nat} {stack : List String} {document callee main : FlowDocument}
  {before between : Progress}

/-- If a run fails, but neither the document nor its graph is at fault, then a call has failed. -/
theorem exists_failing_call {problem : CompileError} {after : Progress}
    (run : (compiler.compileWithin (allowance + 1) stack document).run before = .error problem after)
    (isDocument : ∀ reason, problem ≠ .document reason) (isGraph : ∀ reason, problem ≠ .graph reason) :
    ∃ flow request between, Asks compiler stack document before flow request between ∧
      (compiler.callee (compiler.compileWithin allowance) (stack ++ [document.key]) flow request).run
        between = .error problem after := by
  rcases compileWithin_succ_run_eq_error_iff.1 run with ⟨-, same, -⟩ |
    ⟨named, run | ⟨_, -, reason, -, same⟩⟩
  · exact absurd same.symm (isDocument _)
  · obtain ⟨earlier, node, later, nodes, between, listed, earlierRun, failed⟩ :=
      exists_failing_node run
    have compiled := compilesNodes_of_run (finds_of_run compiles_of_run) earlierRun
    rcases compileNode_run_eq_error_iff.1 failed with ⟨-, same, -⟩ |
      ⟨reader, known, ⟨reason, -, same, -⟩ | ⟨call, read, failed⟩⟩
    · exact absurd same.symm (isDocument _)
    · exact absurd same.symm (isDocument _)
    · exact ⟨call.flow, call.version, between, .intro named listed compiled known read, failed⟩
  · exact absurd same.symm (isGraph _)

/-- If a run uses up its allowance, then in a nested compilation. -/
theorem exists_reachesCall_of_runsOut
    (out : RunsOut (compiler.compileWithin (allowance + 1) stack document) before) :
    ∃ callee between, ReachesCall compiler stack document before callee between ∧
      callee.key ∉ stack ++ [document.key] ∧ between.cache.lookup callee.key = none ∧
        RunsOut (compiler.compileWithin allowance (stack ++ [document.key]) callee) between := by
  obtain ⟨flow, after, run⟩ := out
  obtain ⟨name, request, between, asks, failed⟩ :=
    exists_failing_call run (by rintro reason ⟨⟩) (by rintro reason ⟨⟩)
  obtain ⟨callee, answer, inactive, missing, outCallee⟩ := runsOut_callee_iff.1 ⟨flow, after, failed⟩
  exact ⟨callee, between, .intro asks answer, inactive, missing, outCallee⟩

/-- If a call that is reached fails, then the compilation that makes it does, unless it runs out of its
allowance before. -/
theorem ReachesCall.fails (reached : ReachesCall compiler stack document before callee between)
    {problem : CompileError} {after : Progress}
    (failed : ∀ flow request, compiler.findDocument between.embedded flow request = .ok callee →
      (compiler.callee (compiler.compileWithin allowance) (stack ++ [document.key]) flow request).run
        between = .error problem after) :
    RunsOut (compiler.compileWithin (allowance + 1) stack document) before ∨
      (compiler.compileWithin (allowance + 1) stack document).run before = .error problem after := by
  obtain ⟨⟨named, listed, compiled, known, read⟩, answer⟩ := reached
  have nodeFailed :=
    compileNode_run_eq_error_iff.2 (.inr ⟨_, known, .inr ⟨_, read, failed _ _ answer⟩⟩)
  rcases compiled.runs allowance with ⟨flow, last, earlierFailed⟩ | earlierRun
  · obtain ⟨earlier, node, later, nodes, middle, rfl, run, failed⟩ := exists_failing_node earlierFailed
    refine .inl (runsOut_compileWithin_succ_iff.2 ⟨named, flow, last, ?_⟩)
    rw [listed, List.append_assoc]
    exact compileNodes_run_eq_error run failed
  · refine .inr (compileWithin_succ_run_eq_error_iff.2 (.inr ⟨named, .inl ?_⟩))
    rw [listed]
    exact compileNodes_run_eq_error earlierRun nodeFailed

/-- If a nested compilation fails, then the whole run does, unless it runs out of its allowance
before. -/
theorem Begins.fails (begins : Begins compiler main stack document before) {problem : CompileError}
    {after : Progress}
    (failed : (compiler.compileWithin allowance stack document).run before = .error problem after) :
    RunsOut (compiler.compileWithin (stack.length + allowance) [] main) (initialProgress main) ∨
      (compiler.compileWithin (stack.length + allowance) [] main).run (initialProgress main) =
        .error problem after := by
  induction begins generalizing allowance problem after with
  | main => exact .inr (by simpa using failed)
  | call begins reached inactive missing ih =>
      rw [List.length_append, List.length_singleton, Nat.add_assoc, Nat.add_comm 1]
      rcases reached.fails fun flow request answer => callee_run_eq_error_iff.2
        (.inr ⟨_, answer, .inr ⟨inactive, missing, failed⟩⟩) with ⟨flow, last, out⟩ | run
      · exact (ih out).elim .inl fun outer => .inl ⟨flow, last, outer⟩
      · exact ih run

/-- What a run lacks is what the compilations that it nests lack. -/
theorem Begins.runsOut (begins : Begins compiler main stack document before)
    (out : RunsOut (compiler.compileWithin allowance stack document) before) :
    RunsOut (compiler.compileWithin (stack.length + allowance) [] main) (initialProgress main) := by
  obtain ⟨flow, after, failed⟩ := out
  rcases begins.fails failed with out | run
  · exact out
  · exact ⟨flow, after, run⟩

/-- A compilation that uses up its allowance nests others, as deeply as the allowance permits. -/
theorem Begins.exists_deepest (begins : Begins compiler main stack document before)
    (out : RunsOut (compiler.compileWithin allowance stack document) before) :
    ∃ below callee between, Begins compiler main below callee between ∧
      below.length = stack.length + allowance := by
  induction allowance generalizing stack document before with
  | zero => exact ⟨stack, document, before, begins, rfl⟩
  | succ allowance ih =>
      obtain ⟨callee, between, reached, inactive, missing, outBelow⟩ :=
        exists_reachesCall_of_runsOut out
      obtain ⟨below, deepest, last, beginsBelow, isLength⟩ :=
        ih (.call begins reached inactive missing) outBelow
      refine ⟨below, deepest, last, beginsBelow, ?_⟩
      rw [isLength, List.length_append, List.length_singleton]
      omega

/-- **An allowance is used up exactly if calls nest that deeply**: a run with it ends for want of a
larger one if and only if a compilation begins below that many flows. -/
theorem runsOut_iff_begins :
    RunsOut (compiler.compileWithin allowance [] main) (initialProgress main) ↔
      ∃ stack document before, Begins compiler main stack document before ∧
        stack.length = allowance := by
  constructor
  · intro out
    obtain ⟨stack, document, before, begins, isLength⟩ := Begins.main.exists_deepest out
    exact ⟨stack, document, before, begins, by simpa using isLength⟩
  · rintro ⟨stack, document, before, begins, rfl⟩
    have atOnce : RunsOut (compiler.compileWithin 0 stack document) before :=
      ⟨document.key, before, rfl⟩
    exact begins.runsOut atOnce

end

end Compiler

end DecisionFlow
