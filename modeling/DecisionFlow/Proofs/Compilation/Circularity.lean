import DecisionFlow.Proofs.Compilation.Binding
import DecisionFlow.Proofs.Compilation.Termination

/-!
# Flows that call themselves

A flow that is called while it is being compiled is not compiled again: compilation fails and reports
the keys of the flows from the one that was called to the one that called it, and the first key once
more. At that moment these flows are the innermost ones under way (`IsStack`), and each of them was
entered from a call in the one before it, so the report is a cycle of calls
(`isCallCycle_of_circular`). What was compiled before that moment, and is not under way any more, does
not show in it.

A resolver may fail with any problem, and what it fails with is passed on as it is. So a report can also
be the resolver's own answer to a call that no embedded flow answers (`ReportedByResolver`), and then it
need not be a cycle of anything (`exists_circular_not_isCallCycle`). The resolvers that are provided
make no such reports.

Conversely, compilation fails when it comes to a cycle of calls and reports that one. So where called
flows come from a library, the cycles of calls are what is reported (`circular_iff`).
-/

set_option autoImplicit false

namespace DecisionFlow

/-! ## Resolvers that report no cycles -/

namespace Resolver

/-- The resolvers that are there to be used: one without flows, one that looks flows up, one with a
fixed answer, and one that reads a directory. -/
inductive Provided : Resolver → Prop where
  | none : Provided none
  | ofLibrary (library : Library) : Provided (ofLibrary library)
  | constant (document : FlowDocument) : Provided (constant document)
  | directory (directory : Directory) : Provided directory.resolver

end Resolver

/-- The resolver could not answer. -/
def ReferenceError.IsFailure (problem : ReferenceError) : Prop :=
  ∃ flow reason, problem = .resolverFailed flow reason

namespace Directory

theorem readVersions_fails (directory : Directory) (flow : String) (library : Library)
    (files : List (String × Except String String)) :
    FailsOnlyWith ReferenceError.IsFailure (directory.readVersions flow library files) := by
  induction files generalizing library with
  | nil => exact .ok _
  | cons entry rest ih =>
      obtain ⟨file, text⟩ := entry
      rw [readVersions]
      split
      · refine FailsOnlyWith.bind ?_ fun document => ih _
        unfold readDocument
        split
        · exact .error ⟨_, _, rfl⟩
        · split
          · exact .error ⟨_, _, rfl⟩
          · exact .ok _
      · exact ih _

theorem resolver_fails (directory : Directory) (flow : String) (request : VersionRequest) :
    FailsOnlyWith ReferenceError.IsFailure (directory.resolver.answer flow request) := by
  unfold resolver
  dsimp only
  split
  · exact .error ⟨_, _, rfl⟩
  · exact (directory.readVersions_fails flow Library.empty _).bind fun versions => .ok _

end Directory

/-- Cycles are reported by compilation, and not by the resolvers that it uses. -/
theorem Resolver.Provided.answer_ne_circular {resolver : Resolver} (provided : resolver.Provided)
    (flow : String) (request : VersionRequest) (path : List String) :
    resolver.answer flow request ≠ .error (.circular path) := by
  cases provided with
  | none | ofLibrary library | constant document => rintro ⟨⟩
  | directory directory =>
      intro failed
      obtain ⟨_, _, ⟨⟩⟩ := directory.resolver_fails flow request _ failed

namespace Compiler

variable {compiler : Compiler} {main document callee : FlowDocument} {stack path : List String}
  {before between after : Progress}

/-! ## Flows that are under way -/

/-- The compilation of a flow: the flows below which it began, outermost first, and what was gathered
before. -/
structure Underway where
  below : List String
  document : FlowDocument
  before : Progress

namespace Underway

/-- The key of the flow. -/
def key (flow : Underway) : String :=
  flow.document.key

/-- In the compilation of the flow a call is reached that is answered with a definition with the
key. -/
def Calls (compiler : Compiler) (flow : Underway) (key : String) : Prop :=
  ∃ callee between, ReachesCall compiler flow.below flow.document flow.before callee between ∧
    callee.key = key

/-- The compilation of the second flow begins at a call in that of the first one, since it is neither
active nor stored. -/
structure Enters (compiler : Compiler) (outer inner : Underway) : Prop where
  below : inner.below = outer.below ++ [outer.key]
  reached : ReachesCall compiler outer.below outer.document outer.before inner.document inner.before
  inactive : inner.key ∉ inner.below
  missing : inner.before.cache.lookup inner.key = none

end Underway

/-- The flows are under way at some moment of the compilation of the main flow, outermost first. -/
structure IsStack (compiler : Compiler) (main : FlowDocument) (flows : List Underway) : Prop where
  first : flows.head? = some ⟨[], main, initialProgress main⟩
  entered : flows.IsChain (Underway.Enters compiler)

/-- A compilation that begins is the innermost one under way, and its stack lists the others. -/
theorem Begins.exists_isStack (begins : Begins compiler main stack document before) :
    ∃ outer, IsStack compiler main (outer ++ [⟨stack, document, before⟩]) ∧
      outer.map Underway.key = stack := by
  induction begins with
  | main => exact ⟨[], ⟨rfl, List.isChain_singleton _⟩, rfl⟩
  | @call stack document callee before between begins reached inactive missing ih =>
      obtain ⟨outer, ⟨first, entered⟩, keys⟩ := ih
      refine ⟨outer ++ [⟨stack, document, before⟩], ⟨?_, ?_⟩, ?_⟩
      · rw [List.head?_append, first, Option.some_or]
      · refine entered.append (List.isChain_singleton _) fun last isLast next isNext => ?_
        obtain rfl : ⟨stack, document, before⟩ = last := by simpa using isLast
        obtain rfl : ⟨stack ++ [document.key], callee, between⟩ = next := by simpa using isNext
        exact ⟨rfl, reached, inactive, missing⟩
      · rw [List.map_append, keys]
        rfl

/-- The innermost flow under way has begun below the others. -/
theorem IsStack.begins {outer : List Underway} {flow : Underway}
    (isStack : IsStack compiler main (outer ++ [flow])) :
    Begins compiler main flow.below flow.document flow.before ∧
      outer.map Underway.key = flow.below := by
  induction outer using List.reverseRecOn generalizing flow with
  | nil =>
      obtain rfl := Option.some.inj isStack.first
      exact ⟨.main, rfl⟩
  | append_singleton front last ih =>
      obtain ⟨first, entered⟩ := isStack
      obtain ⟨onward, -, enters⟩ := List.isChain_append.1 entered
      have others : IsStack compiler main (front ++ [last]) := by
        refine ⟨?_, onward⟩
        rwa [List.head?_append_of_ne_nil _ (List.append_ne_nil_of_right_ne_nil _ (by simp))] at first
      obtain ⟨begins, keys⟩ := ih others
      obtain ⟨below, reached, inactive, missing⟩ := enters last (by simp) flow (by simp)
      obtain ⟨_, document, before⟩ := flow
      obtain rfl := below
      exact ⟨.call begins reached inactive missing, by rw [List.map_append, keys]; rfl⟩

/-! ## Cycles of calls -/

/-- Flows that are under way call each other in a circle: each but the last key is that of one of the
innermost flows, outermost first, and that flow calls one with the next key. -/
structure IsCallCycle (compiler : Compiler) (main : FlowDocument) (path : List String) : Prop where
  /-- There is at least one call. -/
  long : 2 ≤ path.length
  closed : path.head? = path.getLast?
  /-- Without the last one, which is the first again, all keys are different. -/
  distinct : path.dropLast.Nodup
  linked : ∃ outer cycle, IsStack compiler main (outer ++ cycle) ∧
    cycle.map Underway.key = path.dropLast ∧
      path.IsChain fun key next => ∃ flow ∈ cycle, flow.key = key ∧ flow.Calls compiler next

/-- The part of a stack from a key on is reported, and the key once more. -/
theorem closedCall_eq {outer inner : List String} {key : String} (fresh : key ∉ outer) :
    closedCall (outer ++ key :: inner) key = key :: inner ++ [key] := by
  have others : ∀ other ∈ outer, decide (other ≠ key) = true := fun other member =>
    decide_eq_true (ne_of_mem_of_not_mem member fresh)
  rw [closedCall, List.dropWhile_append_of_pos others, List.dropWhile_cons_of_neg (by simp)]

/-- Where each flow was entered from the one before it and the last one calls a key, the keys are those
of consecutive calls. -/
theorem isChain_keys {flows : List Underway} {last : Underway} {key : String}
    (entered : flows.IsChain (Underway.Enters compiler)) (isLast : flows.getLast? = some last)
    (calls : last.Calls compiler key) :
    (flows.map Underway.key ++ [key]).IsChain fun key next =>
      ∃ flow ∈ flows, flow.key = key ∧ flow.Calls compiler next := by
  refine .append ?_ (List.isChain_singleton _) fun caller isCaller next isNext => ?_
  · rw [List.isChain_map]
    refine entered.imp_of_mem_imp fun outer inner member _ enters => ?_
    exact ⟨outer, member, rfl, inner.document, inner.before, enters.reached, rfl⟩
  · obtain rfl : last.key = caller := by simpa [isLast] using isCaller
    obtain rfl : key = next := by simpa using isNext
    exact ⟨last, List.mem_of_getLast? isLast, rfl, calls⟩

/-- A call of an active flow closes a cycle. -/
theorem Begins.isCallCycle (begins : Begins compiler main stack document before)
    (reached : ReachesCall compiler stack document before callee between)
    (active : callee.key ∈ stack ++ [document.key]) :
    IsCallCycle compiler main (closedCall (stack ++ [document.key]) callee.key) := by
  let innermost : Underway := ⟨stack, document, before⟩
  obtain ⟨flows, isStack, keys⟩ := begins.exists_isStack
  obtain ⟨outer, inner, split, fresh⟩ := List.eq_append_cons_of_mem active
  have allKeys : (flows ++ [innermost]).map Underway.key = outer ++ callee.key :: inner := by
    rw [← split, List.map_append, keys]
    rfl
  obtain ⟨others, cycle, isSplit, -, cycleKeys⟩ := List.map_eq_append_iff.1 allKeys
  have isLast : cycle.getLast? = some innermost := by
    have present : cycle ≠ [] := by
      rintro rfl
      cases cycleKeys
    rw [← List.getLast?_append_of_ne_nil others present, ← isSplit, List.getLast?_concat]
  have distinct := split ▸ begins.nodup
  rw [isSplit] at isStack
  rw [split, closedCall_eq fresh]
  refine ⟨by simp, by rw [List.getLast?_concat]; rfl, ?_, others, cycle, isStack, ?_, ?_⟩
  · rw [List.dropLast_concat]
    exact distinct.of_append_right
  · rw [List.dropLast_concat, cycleKeys]
  · rw [← cycleKeys]
    exact isChain_keys isStack.entered.right_of_append isLast ⟨callee, between, reached, rfl⟩

/-! ## Reported cycles -/

/-- The report of a path is an answer of the resolver: in the compilation of a flow that is under way a
call asks for a flow, no embedded flow answers it, and the resolver fails with this report. -/
inductive ReportedByResolver (compiler : Compiler) (main : FlowDocument) (path : List String) : Prop
    where
  | intro {stack : List String} {document : FlowDocument} {before between : Progress} {flow : String}
      {request : VersionRequest} (begins : Begins compiler main stack document before)
      (asks : Asks compiler stack document before flow request between)
      (missing : between.embedded.find? flow request = none)
      (answer : compiler.resolver.answer flow request = .error (.circular path))

theorem not_reportedByResolver (provided : compiler.resolver.Provided) :
    ¬ ReportedByResolver compiler main path := by
  rintro ⟨-, -, -, answer⟩
  exact provided.answer_ne_circular _ _ path answer

/-- Whether a called flow is active is not known before it was found, so a cycle that is reported then
comes from the resolver. -/
theorem answer_of_findDocument_circular {embedded : Library} {flow : String} {request : VersionRequest}
    (failed : compiler.findDocument embedded flow request = .error (.circular path)) :
    embedded.find? flow request = none ∧
      compiler.resolver.answer flow request = .error (.circular path) := by
  have checked (found : FlowDocument) :
      (if found.id = flow ∧ request.accepts found.version = true then .ok found
        else .error (.wrongAnswer flow request found.key) : Except ReferenceError FlowDocument) ≠
          .error (.circular path) := by
    split <;> rintro ⟨⟩
  cases inside : embedded.find? flow request with
  | some found =>
      simp only [findDocument, inside] at failed
      exact absurd failed (checked found)
  | none =>
      refine ⟨rfl, ?_⟩
      cases outside : compiler.resolver.answer flow request with
      | error problem => simpa [findDocument, inside, outside, bind, Except.bind] using failed
      | ok answer =>
          simp only [findDocument, inside, outside, bind, Except.bind] at failed
          cases answer with
          | none => cases failed
          | some found => exact absurd failed (checked found)

/-- If a cycle is reported, then because a call of an active flow is reached, below what is being
compiled, or because the resolver reports it. -/
theorem Begins.exists_closing_call {allowance : Nat}
    (begins : Begins compiler main stack document before)
    (run : (compiler.compileWithin allowance stack document).run before =
      .error (.reference (.circular path)) after) :
    IsCallCycle compiler main path ∨ ReportedByResolver compiler main path := by
  induction allowance generalizing stack document before after with
  | zero => cases run
  | succ allowance ih =>
      obtain ⟨flow, request, between, asks, failed⟩ :=
        exists_failing_call run (by rintro reason ⟨⟩) (by rintro reason ⟨⟩)
      rcases callee_run_eq_error_iff.1 failed with ⟨_, failed, ⟨⟩, -⟩ |
        ⟨callee, answer, ⟨active, ⟨⟩, -⟩ | ⟨inactive, missing, failed⟩⟩
      · obtain ⟨missing, reported⟩ := answer_of_findDocument_circular failed
        exact .inr (.intro begins asks missing reported)
      · exact .inl (begins.isCallCycle (.intro asks answer) active)
      · exact ih (.call begins (.intro asks answer) inactive missing) failed

/-- **A reported cycle is a cycle of calls**, unless the resolver has reported it. If compilation fails
because of a circular call, then the path has at least one call and ends with the key that it begins
with, its other keys are different and are those of the innermost flows under way, outermost first, and
in each of these a call is reached that is answered with a definition with the next key; or a call was
answered by the resolver with the report of this path, which is passed on. No resolver that is provided
does the latter. -/
theorem isCallCycle_of_circular
    (failed : (compiler.compile main).1 = .error (.reference (.circular path))) :
    (IsCallCycle compiler main path ∨ ReportedByResolver compiler main path) ∧
      (compiler.resolver.Provided → IsCallCycle compiler main path) := by
  obtain ⟨after, run⟩ := compile_eq_error_iff.1 failed
  have reported := Begins.main.exists_closing_call run
  exact ⟨reported, fun provided => reported.resolve_right (not_reportedByResolver provided)⟩

/-- A flow that yields what another flow does. -/
def forwarding (id callee : String) : FlowDocument where
  id := id
  version := "1"
  nodes := [⟨"start", "start", []⟩, callNode "call" (callee, "1"),
    ⟨"end", "output", [("output", .object [("node", .string "call")])]⟩]
  edges := [⟨"start", "call", none⟩, ⟨"call", "end", none⟩]
  subflows := []

/-- A flow that calls `basis`, which is compiled at once, and then `offer`, which calls `discount` and
is called by it. -/
def callingInCircle : FlowDocument :=
  { twoCalls ("basis", "1") ("offer", "1") with
    subflows := [namedFlow "basis" "1", forwarding "offer" "discount", forwarding "discount" "offer"] }

/-- The path of a reported cycle of calls. -/
def reportedCircle? : Except CompileError Graph → Option (List String)
  | .error (.reference (.circular path)) => some path
  | _ => none

theorem eq_of_reportedCircle? {outcome : Except CompileError Graph}
    (reported : reportedCircle? outcome = some path) :
    outcome = .error (.reference (.circular path)) := by
  unfold reportedCircle? at reported
  split at reported
  next => rw [Option.some.inj reported]
  next => cases reported

/-- The path leaves out the main flow, from which the calls have come, and the flow that was compiled
before. -/
theorem isCallCycle_of_calling_in_circle :
    (plain.compile callingInCircle).1 =
        .error (.reference (.circular ["offer@1", "discount@1", "offer@1"])) ∧
      IsCallCycle plain callingInCircle ["offer@1", "discount@1", "offer@1"] := by
  have reported : reportedCircle? (plain.compile callingInCircle).1 =
      some ["offer@1", "discount@1", "offer@1"] := by
    decide +kernel
  have failed := eq_of_reportedCircle? reported
  exact ⟨failed, (isCallCycle_of_circular failed).2 .none⟩

/-- A resolver that answers every question with the report of a path without flows. -/
def reporting : Resolver where
  answer _ _ := .error (.circular [])
  flowCount := 0

/-- What the resolver reports is passed on for the first call, though no flow calls itself. -/
theorem exists_circular_not_isCallCycle :
    ¬ ∀ (compiler : Compiler) (main : FlowDocument) (path : List String),
      (compiler.compile main).1 = .error (.reference (.circular path)) →
        IsCallCycle compiler main path := by
  intro always
  have reported : reportedCircle?
      ((Compiler.mk KindTable.standard reporting).compile (forwarding "main" "other")).1 = some [] := by
    decide +kernel
  have isCycle := always _ _ _ (eq_of_reportedCircle? reported)
  exact absurd isCycle.long (by decide)

/-! ## Cycles of calls are reported -/

/-- In a cycle of calls the innermost flow calls one that is active, and the path is what is then
reported. -/
theorem IsCallCycle.exists_closing_call (isCycle : IsCallCycle compiler main path) :
    ∃ stack document before callee between, Begins compiler main stack document before ∧
      ReachesCall compiler stack document before callee between ∧
        callee.key ∈ stack ++ [document.key] ∧
          closedCall (stack ++ [document.key]) callee.key = path := by
  obtain ⟨long, closed, distinct, outer, cycle, isStack, keys, linked⟩ := isCycle
  obtain rfl | ⟨front, key, rfl⟩ := List.eq_nil_or_concat' path
  · simp at long
  rw [List.dropLast_concat] at distinct keys
  obtain rfl | ⟨others, innermost, rfl⟩ := List.eq_nil_or_concat' cycle
  · simp [← keys] at long
  obtain ⟨inner, rfl⟩ : ∃ inner, front = key :: inner := by
    cases front with
    | nil => simp at long
    | cons first inner =>
        rw [List.getLast?_concat] at closed
        exact ⟨inner, by rw [Option.some.inj closed]⟩
  rw [← List.append_assoc] at isStack
  obtain ⟨begins, below⟩ := isStack.begins
  have stackKeys : innermost.below ++ [innermost.document.key] =
      outer.map Underway.key ++ key :: inner := by
    rw [← keys, ← below, List.map_append, List.map_append, List.append_assoc]
    rfl
  -- Only the innermost flow has its key, so that the last link is a call in it.
  obtain ⟨flow, member, sameKey, callee, between, reached, isKey⟩ :=
    (List.isChain_append.1 linked).2.2 innermost.key (by simp [← keys]) key rfl
  obtain rfl : flow = innermost :=
    List.inj_on_of_nodup_map (keys ▸ distinct) member (by simp) sameKey
  refine ⟨_, _, _, callee, between, begins, reached, ?_, ?_⟩
  · rw [stackKeys, isKey]
    simp
  · have fresh : key ∉ outer.map Underway.key := by
      have allDistinct := begins.nodup
      rw [stackKeys] at allDistinct
      exact fun member => (List.nodup_append.1 allDistinct).2.2 key member key (by simp) rfl
    rw [stackKeys, isKey, closedCall_eq fresh]

/-- A cycle of calls is reported, unless calls nest too deeply. -/
theorem IsCallCycle.run_eq_error (isCycle : IsCallCycle compiler main path) (allowance : Nat) :
    RunsOut (compiler.compileWithin allowance [] main) (initialProgress main) ∨
      ∃ after, (compiler.compileWithin allowance [] main).run (initialProgress main) =
        .error (.reference (.circular path)) after := by
  obtain ⟨stack, document, before, callee, between, begins, reached, active, rfl⟩ :=
    isCycle.exists_closing_call
  rcases Nat.lt_or_ge stack.length allowance with deeper | shallow
  · obtain ⟨left, rfl⟩ := Nat.exists_eq_add_of_lt deeper
    rcases reached.fails fun flow request answer => callee_run_eq_error_iff.2
      (.inr ⟨callee, answer, .inl ⟨active, rfl, rfl⟩⟩) with out | run
    · exact .inl (begins.runsOut out)
    · exact (begins.fails run).imp_right fun failed => ⟨between, failed⟩
  · have out : RunsOut (compiler.compileWithin 0 stack document) before :=
      ⟨document.key, before, rfl⟩
    rcases compileWithin_continues shallow [] main (initialProgress main) with less | same
    · exact .inl less
    · obtain ⟨flow, after, failed⟩ := begins.runsOut out
      exact .inl ⟨flow, after, same.symm.trans failed⟩

/-- **With a library exactly the cycles of calls are reported.** -/
theorem circular_iff {kinds : KindTable} {library : Library} :
    ((withLibrary kinds library).compile main).1 = .error (.reference (.circular path)) ↔
      IsCallCycle (withLibrary kinds library) main path := by
  rw [compile_eq_error_iff]
  constructor
  · rintro ⟨after, run⟩
    exact (Begins.main.exists_closing_call run).resolve_right
      (not_reportedByResolver (.ofLibrary library))
  · intro isCycle
    refine (isCycle.run_eq_error _).resolve_left (not_runsOut_of_card_le ?_)
    exact (library.card_callableKeys_le main).trans (Nat.le_succ _)

end Compiler

end DecisionFlow
