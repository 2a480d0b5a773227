import DecisionFlow.Proofs.Compilation.RoundTrip
import DecisionFlow.Proofs.Evaluation.Range
import DecisionFlow.Proofs.Image.RoundTrip

/-!
# What loaded graphs keep of what graphs promise

A graph promises to be intact, with everything that it calls, as all graphs that were assembled are,
and to stay in range whatever record it is evaluated for. An image is loaded as it is, and bytes that
no graph was written to may be one as well: of a graph that turns in a circle, or that begins where
there is no node.

What is loaded keeps the promises exactly if the checks of the assembly find nothing when they are
made again (`keepsPromises_iff`). They find nothing in an image that was written for a compiled flow,
in whatever order its indexes are.
-/

set_option autoImplicit false

namespace DecisionFlow

open DecisionFlow.Graph (IntactWithin StaysInRange)

/-! ## Compiled graphs -/

/-- A compiled graph is intact, with everything that it calls. -/
theorem Compiler.intactWithin_of_compile {aliases : List (String × String)} {resolver : Resolver}
    {document : FlowDocument} {graph : Graph}
    (compiled : ((builtIn aliases resolver).compile document).1 = .ok graph) :
    IntactWithin graph := by
  have intact (inner : Graph) (within : graph.Within inner) : inner.Intact := by
    obtain ⟨source, made⟩ := exists_compiledFrom compiled within
    refine .of_assemble made.assembled fun node member lookup isLookup => ?_
    have valid := (regular_of_within compiled within member).valid
    rw [NodeKind.unresolved, isLookup] at valid
    exact TableLookup.Valid.shaped valid
  exact ⟨intact graph (.self graph), fun call within => intact call.target (.target within)⟩

namespace Image

/-- What is loaded from the bytes, if anything is, is an intact graph that stays in range. -/
def KeepsPromises (bytes : Bytes) : Prop :=
  ∀ graph, decode bytes = .ok graph → IntactWithin graph ∧ StaysInRange graph

/-- **What loading keeps of the promises.** A graph that is loaded is intact, with everything that it
calls, and stays in range, exactly if it passes the checks of the assembly. The graph that is loaded
from an image of a compiled graph does, whatever follows the image. -/
theorem keepsPromises_iff (bytes : Bytes) :
    (KeepsPromises bytes ↔ ∀ graph, decode bytes = .ok graph → graph.isIntact = true) ∧
    ∀ aliases resolver document graph image rest,
      ((Compiler.builtIn aliases resolver).compile document).1 = .ok graph → GraphFits graph →
        IsImage graph image → bytes = image ++ rest →
          (∃ loaded, decode bytes = .ok loaded ∧ graph.Alike loaded) ∧ KeepsPromises bytes := by
  constructor
  · constructor
    · exact fun keeps graph loads => Graph.isIntact_iff.2 (keeps graph loads).1
    · intro passes graph loads
      have intact := Graph.isIntact_iff.1 (passes graph loads)
      exact ⟨intact, intact.staysInRange⟩
  · rintro aliases resolver document graph image rest compiled fits isImage rfl
    obtain ⟨stored, alike, reads⟩ := isImage.reads fits
    have loads : decode (image ++ rest) = .ok stored := decode_of_reads reads rest
    refine ⟨⟨stored, loads, alike⟩, fun loaded also => ?_⟩
    obtain rfl : stored = loaded := Except.ok.inj (loads.symm.trans also)
    have intact := (Compiler.intactWithin_of_compile compiled).alike alike
    exact ⟨intact, intact.staysInRange⟩

/-- A flow that looks up a rate. -/
def ratingFlow : FlowDocument where
  id := "main"
  version := "1"
  nodes := [⟨"start", "start", []⟩,
    ⟨"rate", "table_lookup", [("columns", .array [.string "class", .string "rate"]),
      ("keys", .object [("class", .object [("field", .string "class")])]),
      ("target", .string "rate"),
      ("rows", .array [.array [.string "a", .string "low"], .array [.string "*", .string "high"]])]⟩,
    ⟨"end", "end", [("output", .object [("node", .string "rate")])]⟩]
  edges := [⟨"start", "rate", none⟩, ⟨"rate", "end", none⟩]
  subflows := []

/-- The graph that it is compiled to. -/
def ratingGraph : Graph where
  id := "main"
  version := "1"
  nodes := [⟨"start", .start⟩,
    ⟨"rate", .tableLookup {
      keys := [("class", .field "class")]
      target := "rate"
      extraTargets := []
      table := {
        columns := ["class", "rate"]
        rows := [[.literal (.string "a"), .literal (.string "low")],
          [.wildcard, .literal (.string "high")]] } }⟩,
    ⟨"end", .output ⟨.node "rate", none, []⟩⟩]
  edges := [⟨"start", .next, "rate"⟩, ⟨"rate", .next, "end"⟩]
  index := ⟨[("start", 0), ("rate", 1), ("end", 2)], by decide⟩
  successors := [⟨some 1, none, none⟩, ⟨some 2, none, none⟩, .empty]
  start := 0

theorem keepsPromises_of_ratingFlow :
    ((Compiler.builtIn [] .none).compile ratingFlow).1 = .ok ratingGraph ∧ GraphFits ratingGraph ∧
      IsImage ratingGraph (encode ratingGraph) ∧
        (∃ loaded, decode (encode ratingGraph ++ [7]) = .ok loaded ∧ ratingGraph.Alike loaded) ∧
          KeepsPromises (encode ratingGraph ++ [7]) := by
  have compiled : ((Compiler.builtIn [] .none).compile ratingFlow).1 = .ok ratingGraph := by
    with_unfolding_all rfl
  have fits : GraphFits ratingGraph := by
    refine .of_target ⟨?_, ?_, ?_, ?_, ?_, ?_, ?_⟩ ?_
    iterate 7 decide
    rintro call ⟨id, member⟩
    simp [ratingGraph] at member
  have isImage := isImage_encode ratingGraph
  exact ⟨compiled, fits, isImage,
    (keepsPromises_iff _).2 [] .none ratingFlow ratingGraph _ [7] compiled fits isImage rfl⟩

/-! ## Graphs that no flow was compiled to -/

/-- A flow of two nodes, with successors and a start that need not fit them. -/
def twoNodes (successors : List Successors) (start : Nat) : Graph where
  id := "g"
  version := "1"
  nodes := [⟨"start", .start⟩, ⟨"out", .output ⟨.literal .null, none, []⟩⟩]
  edges := [⟨"start", .next, "out"⟩]
  index := shortIndex
  successors
  start

/-- The start leads back to itself. -/
def loopingGraph : Graph := twoNodes [⟨some 0, none, none⟩, .empty] 0

/-- There is no node at the start. -/
def strayGraph : Graph := twoNodes [⟨some 1, none, none⟩, .empty] 2

/-- The image of `loopingGraph`. -/
def loopingBytes : Bytes :=
  [1, 1, 103, 1, 49, 2, 5, 115, 116, 97, 114, 116, 0, 3, 111, 117, 116, 7, 13, 3, 0, 0, 1, 5,
    115, 116, 97, 114, 116, 0, 3, 111, 117, 116, 2, 5, 115, 116, 97, 114, 116, 0, 3, 111, 117,
    116, 1, 2, 1, 0, 0, 0, 0, 0, 0, 0]

theorem graphFits_twoNodes {successors : List Successors} {start : Nat}
    (fits : ListFits SuccessorsFits successors) (startFits : start < Decimal.wordBound) :
    GraphFits (twoNodes successors start) := by
  have other : PartsFit (twoNodes [] 0) := by
    constructor
    all_goals decide
  refine .of_target ⟨other.id, other.version, other.nodes, other.edges, other.index, fits, startFits⟩ ?_
  rintro call ⟨id, member⟩
  simp [twoNodes] at member

theorem decode_encode_of_fits {graph : Graph} (fits : GraphFits graph) :
    decode (encode graph) = .ok graph := by
  simpa using decode_of_reads (reads_image fits) []

/-- Bytes may load as a graph that turns in a circle, and others as one whose evaluation looks for a
node where there is none. -/
theorem exists_broken_promises :
    decode loopingBytes = .ok loopingGraph ∧
      (∀ record, loopingGraph.evaluate record = .error (.hopLimit 2)) ∧
      ¬ KeepsPromises loopingBytes ∧
    decode (encode strayGraph) = .ok strayGraph ∧
      (∀ record, strayGraph.evaluate record = .error (.noNode 2)) ∧
      ¬ KeepsPromises (encode strayGraph) := by
  have isImage : encode loopingGraph = loopingBytes := by decide +kernel
  have loops : decode loopingBytes = .ok loopingGraph :=
    isImage ▸ decode_encode_of_fits (graphFits_twoNodes (by decide) (by decide))
  have strays : decode (encode strayGraph) = .ok strayGraph :=
    decode_encode_of_fits (graphFits_twoNodes (by decide) (by decide))
  refine ⟨loops, fun record => rfl, fun keeps => ?_, strays, fun record => rfl, fun keeps => ?_⟩
  · have circle : Graph.Leads loopingGraph.successors 0 0 := List.mem_singleton_self 0
    exact (keeps _ loops).1.own.acyclic 0 (.single circle)
  · exact (keeps _ strays).2 (.ofList []) _ rfl (.inl ⟨2, rfl⟩)

end Image

end DecisionFlow
