import DecisionFlow.Proofs.Compilation.Cache
import DecisionFlow.Proofs.Compilation.Course
import DecisionFlow.Proofs.Library
import Mathlib.Data.Finset.Card

/-!
# Compilation comes to an end

Flows may call each other in any pattern, but a flow that is being compiled is not compiled again
below itself, so the flows on the stack have different keys (`Begins.nodup`). Where called flows come
from a library, these are keys of the main flow, of the flows in the library, or of flows that any of
them embeds (`Begins.subset_callableKeys`). So calls do not nest more deeply than there are such keys, an
allowance of that number is never used up, and no larger one leads to another end (`compile_ends`).
-/

set_option autoImplicit false

namespace DecisionFlow

namespace Library

/-- The flows that can be called where a library supplies what the main flow does not embed: the main
flow and the flows of the library, each with what it embeds. -/
def callable (library : Library) (main : FlowDocument) : List FlowDocument :=
  flatten main ++ flattenAll library.documents

/-- The different keys of the flows that can be called. -/
def callableKeys (library : Library) (main : FlowDocument) : Finset String :=
  ((library.callable main).map FlowDocument.key).toFinset

variable {library : Library} {main document : FlowDocument}

theorem subflows_of_mem_callable (member : document ∈ library.callable main) :
    document.subflows = [] := by
  rcases List.mem_append.1 member with own | supplied
  · exact subflows_of_mem_flatten main own
  · exact subflows_of_mem_flattenAll _ supplied

theorem key_mem_callableKeys (member : document ∈ library.callable main) :
    document.key ∈ library.callableKeys main :=
  List.mem_toFinset.2 (List.mem_map_of_mem member)

/-- A document whose flows can be called has a key that counts. -/
theorem key_mem_callableKeys_of_flatten (contained : flatten document ⊆ library.callable main) :
    document.key ∈ library.callableKeys main := by
  have member : document.bare ∈ library.callable main := by
    apply contained
    rw [flatten_eq]
    exact List.mem_append_right _ List.mem_cons_self
  change document.bare.key ∈ library.callableKeys main
  exact key_mem_callableKeys member

/-- There are no more keys than flows in the main document and in the library. -/
theorem card_callableKeys_le (library : Library) (main : FlowDocument) :
    (library.callableKeys main).card ≤
      main.flowCount + FlowDocument.flowCounts library.documents := by
  refine (List.toFinset_card_le _).trans ?_
  rw [List.length_map, callable, List.length_append, length_flatten, length_flattenAll]

end Library

namespace Compiler

variable {compiler : Compiler} {main document : FlowDocument} {stack : List String}
  {before : Progress}

/-! ## Moments of a compilation -/

/-- The flows on the stack have different keys, at every moment. -/
theorem Begins.nodup (begins : Begins compiler main stack document before) :
    (stack ++ [document.key]).Nodup := by
  induction begins with
  | main => exact List.nodup_singleton _
  | call begins reached inactive missing ih =>
      rw [← List.concat_eq_append]
      exact ih.concat inactive

/-- Compilations begin with what a supply allows, and with a cache that is closed. -/
theorem Begins.ready {supply : Supply compiler}
    (ready : supply.ready ((initialProgress main).embed main).embedded)
    (begins : Begins compiler main stack document before) :
    supply.ready (before.embed document).embedded ∧ before.Closed supply := by
  induction begins with
  | main => exact ⟨ready, .of_nil rfl⟩
  | call begins reached inactive missing ih =>
      obtain ⟨readyBefore, closed⟩ := ih
      obtain ⟨⟨named, listed, compiled, known, read⟩, answer⟩ := reached
      obtain ⟨readyBetween, closedBetween, -, -⟩ :=
        compiled.settles readyBefore (closed.of_cache_eq (Progress.embed_cache _ _))
      exact ⟨supply.embedded readyBetween (supply.found readyBetween answer), closedBetween⟩

/-- Every flow on the stack is the main flow or comes from the supply. -/
theorem Begins.forall_mem_stack {supply : Supply compiler} {keys : String → Prop}
    (ready : supply.ready ((initialProgress main).embed main).embedded)
    (isMain : keys main.key) (isSource : ∀ source, supply.source source → keys source.key)
    (begins : Begins compiler main stack document before) :
    ∀ key ∈ stack ++ [document.key], keys key := by
  induction begins with
  | main => simpa using isMain
  | call begins reached inactive missing ih =>
      obtain ⟨readyBefore, closed⟩ := begins.ready ready
      obtain ⟨⟨named, listed, compiled, known, read⟩, answer⟩ := reached
      obtain ⟨readyBetween, -, -, -⟩ :=
        compiled.settles readyBefore (closed.of_cache_eq (Progress.embed_cache _ _))
      intro key member
      rcases List.mem_append.1 member with active | last
      · exact ih key active
      · rw [List.mem_singleton.1 last]
        exact isSource _ (supply.found readyBetween answer)

/-! ## Flows of a library -/

/-- The compiler that takes called flows from a library if the main flow does not embed them. -/
def withLibrary (kinds : KindTable) (library : Library) : Compiler :=
  ⟨kinds, .ofLibrary library⟩

variable {kinds : KindTable} {library : Library}

/-- Where a library supplies flows, only flows that can be called are found and embedded. -/
def callableSupply (kinds : KindTable) (library : Library) (main : FlowDocument) :
    Supply (withLibrary kinds library) where
  ready embedded := embedded.documents ⊆ library.callable main
  source document := Library.flatten document ⊆ library.callable main
  found := by
    intro embedded flow request document ready answer
    obtain ⟨inside | ⟨-, outside⟩, -⟩ := findDocument_eq_ok_iff.1 answer
    · have member := ready (Library.mem_candidates_of_find? inside).1
      rw [Library.flatten_of_bare (Library.subflows_of_mem_callable member)]
      exact List.cons_subset.2 ⟨member, List.nil_subset _⟩
    · have supplied := (Library.mem_candidates_of_find? (Except.ok.inj outside)).1
      exact List.Subset.trans (Library.flatten_subset_flattenAll supplied) (List.subset_append_right _ _)
  embedded := by
    intro embedded document ready contained other member
    rw [Library.foldl_registerWithEmbedded] at member
    rcases Library.mem_of_mem_registerAll member with earlier | flattened
    · exact ready earlier
    · apply contained
      rw [Library.flatten_eq]
      exact List.mem_append_left _ flattened

theorem ready_callableSupply (kinds : KindTable) (library : Library) (main : FlowDocument) :
    (callableSupply kinds library main).ready ((initialProgress main).embed main).embedded := by
  intro document member
  apply List.mem_append_left
  rw [Library.flatten_eq]
  rcases List.mem_cons.1 (FlowDocument.mem_of_mem_library member) with rfl | flattened
  · exact List.mem_append_right _ List.mem_cons_self
  · exact List.mem_append_left _ flattened

theorem Begins.subset_callableKeys
    (begins : Begins (withLibrary kinds library) main stack document before) :
    ∀ key ∈ stack ++ [document.key], key ∈ library.callableKeys main :=
  begins.forall_mem_stack (ready_callableSupply kinds library main)
    (Library.key_mem_callableKeys_of_flatten (List.subset_append_left _ _))
    fun _ => Library.key_mem_callableKeys_of_flatten

/-- No more flows are compiled at once than there are keys. -/
theorem Begins.length_le (begins : Begins (withLibrary kinds library) main stack document before) :
    (stack ++ [document.key]).length ≤ (library.callableKeys main).card := by
  rw [← List.toFinset_card_of_nodup begins.nodup]
  apply Finset.card_le_card
  intro key member
  exact begins.subset_callableKeys key (List.mem_toFinset.1 member)

/-- An allowance of the number of keys is not used up. -/
theorem not_runsOut_of_card_le {allowance : Nat}
    (enough : (library.callableKeys main).card ≤ allowance) :
    ¬ RunsOut ((withLibrary kinds library).compileWithin allowance [] main)
      (initialProgress main) := by
  intro out
  obtain ⟨stack, document, before, begins, isLength⟩ := runsOut_iff_begins.1 out
  have bounded := begins.length_le
  rw [List.length_append, List.length_singleton] at bounded
  omega

/-- All allowances of at least the number of keys lead to the same end. -/
theorem run_eq_of_card_le {allowance other : Nat}
    (enough : (library.callableKeys main).card ≤ allowance)
    (otherEnough : (library.callableKeys main).card ≤ other) :
    ((withLibrary kinds library).compileWithin allowance [] main).run (initialProgress main) =
      ((withLibrary kinds library).compileWithin other [] main).run (initialProgress main) := by
  have least : ∀ allowance, (library.callableKeys main).card ≤ allowance →
      ((withLibrary kinds library).compileWithin allowance [] main).run (initialProgress main) =
        ((withLibrary kinds library).compileWithin (library.callableKeys main).card [] main).run
          (initialProgress main) := by
    intro allowance enough
    have continues : Continues
        ((withLibrary kinds library).compileWithin (library.callableKeys main).card [] main)
        ((withLibrary kinds library).compileWithin allowance [] main) :=
      compileWithin_continues enough [] main
    rcases continues (initialProgress main) with out | same
    · exact absurd out (not_runsOut_of_card_le le_rfl)
    · exact same
  rw [least allowance enough, least other otherEnough]

/-- **Compilation with a library ends**, in whatever pattern flows call each other. At every moment the
keys on the stack are pairwise distinct, and there are at most as many as there are different keys among
the main flow, the flows of the library and all that these embed. These moments are those of a run: with
an allowance of some number, a run ends for want of it exactly if a compilation begins below that many
flows. So no allowance of at least the number of keys is used up, all of them lead to the same end, and
the compiler's own allowance is one of them. -/
theorem compile_ends (kinds : KindTable) (library : Library) (main : FlowDocument) :
    (∀ stack document before, Begins (withLibrary kinds library) main stack document before →
        (stack ++ [document.key]).Nodup ∧
          (stack ++ [document.key]).length ≤ (library.callableKeys main).card) ∧
      (∀ allowance, RunsOut ((withLibrary kinds library).compileWithin allowance [] main)
          (initialProgress main) ↔
        ∃ stack document before, Begins (withLibrary kinds library) main stack document before ∧
          stack.length = allowance) ∧
      (∀ allowance, (library.callableKeys main).card ≤ allowance →
        ¬ RunsOut ((withLibrary kinds library).compileWithin allowance [] main)
            (initialProgress main) ∧
          ((withLibrary kinds library).compileWithin allowance [] main).run (initialProgress main) =
            ((withLibrary kinds library).compileWithin ((withLibrary kinds library).nesting main) []
              main).run (initialProgress main)) ∧
        ∀ flow, ((withLibrary kinds library).compile main).1 ≠ .error (.nestedTooDeeply flow) := by
  have own : (library.callableKeys main).card ≤ (withLibrary kinds library).nesting main :=
    (library.card_callableKeys_le main).trans (Nat.le_succ _)
  refine ⟨fun stack document before begins => ⟨begins.nodup, begins.length_le⟩,
    fun allowance => runsOut_iff_begins, ?_, ?_⟩
  · intro allowance enough
    exact ⟨not_runsOut_of_card_le enough, run_eq_of_card_le enough own⟩
  · intro flow failed
    obtain ⟨after, run⟩ := compile_eq_error_iff.1 failed
    exact not_runsOut_of_card_le own ⟨flow, after, run⟩

end Compiler

end DecisionFlow
