import DecisionFlow.Proofs.Library.Highest
import Mathlib.Data.List.Dedup

/-!
# Libraries made by registrations

A library is filled by registrations, one after the other, of documents as they are or together with
the flows that they embed. A registration of the second kind counts as several of the first kind, those
of the embedded flows before that of the document around them. However the library was filled, a request
for an exact version is answered with what was registered last under that id and version, and the library
holds one document for each id and version (`Library.answers_latest`).

A document cannot always be had by asking for its own version, because some texts are requests for any
version. All others that have no blanks at their ends name a version (`Library.answers_declared_version`).
-/

set_option autoImplicit false

namespace DecisionFlow

/-- A call that adds to a library. -/
inductive Registration where
  /-- A document as it is, with what it embeds inside it. -/
  | whole (document : FlowDocument)
  /-- A document and the flows that it embeds, each on its own. -/
  | unpacked (document : FlowDocument)

namespace Library

/-- What a call makes of a library. -/
def perform (library : Library) : Registration → Library
  | .whole document => library.register document
  | .unpacked document => library.registerWithEmbedded document

/-- The library after a history of calls, of which the first found it without documents. -/
def after (history : List Registration) : Library :=
  history.foldl perform empty

/-! ## The order of registrations -/

mutual

/-- The documents that are registered, in this order, when a document is unpacked: first those of the
flows that it embeds, one flow after the other, and at last the document without them. -/
inductive Unpacks : FlowDocument → List FlowDocument → Prop where
  | intro {document : FlowDocument} {embedded : List FlowDocument}
      (deeper : UnpackAll document.subflows embedded) :
      Unpacks document (embedded ++ [document.bare])

inductive UnpackAll : List FlowDocument → List FlowDocument → Prop where
  | nil : UnpackAll [] []
  | cons {first : FlowDocument} {rest unpacked others : List FlowDocument}
      (here : Unpacks first unpacked) (later : UnpackAll rest others) :
      UnpackAll (first :: rest) (unpacked ++ others)

end

/-- The documents that the calls of a history register, in this order. -/
inductive CountsAs : List Registration → List FlowDocument → Prop where
  | nil : CountsAs [] []
  | whole {history : List Registration} {written : List FlowDocument} (document : FlowDocument)
      (later : CountsAs history written) :
      CountsAs (.whole document :: history) (document :: written)
  | unpacked {document : FlowDocument} {history : List Registration}
      {unpacked written : List FlowDocument} (here : Unpacks document unpacked)
      (later : CountsAs history written) :
      CountsAs (.unpacked document :: history) (unpacked ++ written)

mutual

theorem unpacks_flatten : ∀ document : FlowDocument, Unpacks document (flatten document)
  | ⟨_, _, _, _, subflows⟩ => .intro (unpackAll_flattenAll subflows)

theorem unpackAll_flattenAll : ∀ documents : List FlowDocument,
    UnpackAll documents (flattenAll documents)
  | [] => .nil
  | first :: rest => .cons (unpacks_flatten first) (unpackAll_flattenAll rest)

end

mutual

theorem Unpacks.eq_flatten {document : FlowDocument} {unpacked : List FlowDocument} :
    Unpacks document unpacked → unpacked = flatten document
  | .intro deeper => by
      obtain ⟨_, _, _, _, subflows⟩ := document
      rw [deeper.eq_flattenAll]
      rfl

theorem UnpackAll.eq_flattenAll {documents unpacked : List FlowDocument} :
    UnpackAll documents unpacked → unpacked = flattenAll documents
  | .nil => rfl
  | .cons here later => by
      rw [here.eq_flatten, later.eq_flattenAll]
      rfl

end

/-- The documents that a call registers. -/
def written : Registration → List FlowDocument
  | .whole document => [document]
  | .unpacked document => flatten document

theorem countsAs_flatMap_written (history : List Registration) :
    CountsAs history (history.flatMap written) := by
  induction history with
  | nil => exact .nil
  | cons call rest ih =>
      cases call with
      | whole document => exact .whole document ih
      | unpacked document => exact .unpacked (unpacks_flatten document) ih

/-- A history counts as one list of registrations. -/
theorem countsAs_iff {history : List Registration} {documents : List FlowDocument} :
    CountsAs history documents ↔ documents = history.flatMap written := by
  constructor
  · intro counts
    induction counts with
    | nil => rfl
    | whole document _ ih => rw [ih]; rfl
    | unpacked here _ ih => rw [ih, here.eq_flatten]; rfl
  · rintro rfl
    exact countsAs_flatMap_written history

theorem after_eq (history : List Registration) :
    after history = empty.registerAll (history.flatMap written) := by
  rw [after, registerAll, List.foldl_flatMap]
  congr 1
  funext library call
  cases call with
  | whole document => rfl
  | unpacked document => exact registerWithEmbedded_eq library document

/-! ## Reading what was registered -/

section

variable {library : Library} {documents : List FlowDocument} {id version : String}

theorem mem_candidates_exact {document : FlowDocument} :
    document ∈ library.candidates id (.exact version) ↔
      document ∈ library.documents ∧ document.id = id ∧ document.version = version := by
  simp [candidates_eq_filter, VersionRequest.accepts, eq_comm (a := version)]

/-- A registration decides the answer for its own id and version, and for no other. -/
theorem find?_register (library : Library) (document : FlowDocument) (id version : String) :
    (library.register document).find? id (.exact version) =
      if document.id = id ∧ document.version = version then some document
      else library.find? id (.exact version) := by
  rw [find?, candidates_register]
  split
  next asked =>
    obtain ⟨rfl, rfl⟩ := asked
    have replaced : (library.candidates document.id (.exact document.version)).filter
        (fun other => !sameFlow document other) = [] := by
      refine List.filter_eq_nil_iff.2 fun other member => ?_
      obtain ⟨-, sameId, sameVersion⟩ := mem_candidates_exact.1 member
      simp [sameFlow, sameId, sameVersion]
    rw [replaced]
    simp [VersionRequest.accepts, highest?]
  next other =>
    have spared : (library.candidates id (.exact version)).filter
        (fun kept => !sameFlow document kept) = library.candidates id (.exact version) := by
      refine List.filter_eq_self.2 fun kept member => ?_
      obtain ⟨-, rfl, rfl⟩ := mem_candidates_exact.1 member
      rw [Bool.not_eq_true', ← Bool.not_eq_true, sameFlow_iff]
      exact other
    have nothing : [document].filter (fun registered => registered.id == id &&
        (VersionRequest.exact version).accepts registered.version) = [] := by
      simpa [VersionRequest.accepts, eq_comm (a := version)] using other
    rw [spared, nothing, List.append_nil, find?]

/-- Of what was registered under an id and a version, the last is found. -/
theorem find?_registerAll (documents : List FlowDocument) (id version : String) :
    (empty.registerAll documents).find? id (.exact version) =
      documents.reverse.find? fun document => document.id = id ∧ document.version = version := by
  induction documents using List.reverseRecOn with
  | nil => rfl
  | append_singleton earlier last ih =>
      have step : empty.registerAll (earlier ++ [last]) = (empty.registerAll earlier).register last := by
        simp [registerAll]
      rw [step, find?_register, List.reverse_append, List.reverse_singleton, List.singleton_append,
        List.find?_cons, ih]
      by_cases asked : last.id = id ∧ last.version = version <;> simp [asked]

/-! ## Counting what was registered -/

theorem distinct_registerAll (documents : List FlowDocument) :
    Distinct (empty.registerAll documents).documents :=
  (distinct_foldl_enlist .nil documents).perm (lists_empty.registerAll documents).perm

/-- The id and the version of a document, by which a library tells documents apart. -/
def idAndVersion (document : FlowDocument) : String × String :=
  (document.id, document.version)

theorem Distinct.nodup_map (distinct : Distinct documents) : (documents.map idAndVersion).Nodup := by
  refine List.pairwise_map.2 (distinct.imp fun different same => ?_)
  rw [sameFlow_iff.2 (Prod.mk.inj same)] at different
  cases different

/-- A library holds one document for each id and version that was registered. -/
theorem size_registerAll (documents : List FlowDocument) :
    (empty.registerAll documents).size = (documents.map idAndVersion).dedup.length := by
  have held := (distinct_registerAll documents).nodup_map
  have sameNames : ((empty.registerAll documents).documents.map idAndVersion).Perm
      (documents.map idAndVersion).dedup := by
    refine (List.perm_ext_iff_of_nodup held (List.nodup_dedup _)).2 fun name => ?_
    rw [List.mem_dedup]
    constructor
    · intro isHeld
      obtain ⟨document, member, rfl⟩ := List.mem_map.1 isHeld
      exact List.mem_map_of_mem ((mem_of_mem_registerAll member).resolve_left List.not_mem_nil)
    · intro isWritten
      obtain ⟨document, member, rfl⟩ := List.mem_map.1 isWritten
      have found : ((empty.registerAll documents).find? document.id
          (.exact document.version)).isSome = true := by
        rw [find?_registerAll, List.find?_isSome]
        exact ⟨document, List.mem_reverse.2 member, by simp⟩
      obtain ⟨other, isOther⟩ := Option.isSome_iff_exists.1 found
      obtain ⟨otherHeld, sameId, sameVersion⟩ := mem_candidates_of_find? isOther
      refine List.mem_map.2 ⟨other, otherHeld, Prod.ext sameId ?_⟩
      exact (eq_of_beq sameVersion).symm
  simpa [size_eq_length] using sameNames.length_eq

end

/-- However a library was filled, it lists the documents that remain when all that were registered are
written into a list one after the other. -/
theorem lists_after (history : List Registration) :
    (after history).Lists ((history.flatMap written).foldl enlist []) := by
  rw [after_eq]
  exact lists_empty.registerAll _

/-- **The last registration counts.** However a library was filled, a request for an exact version is
answered with what was registered last under that id and version, if anything was, and the library holds
as many documents as there are different pairs of an id and a version that were registered. Under every
id that was written there are documents, so that the library is empty exactly if it holds none. -/
theorem answers_latest (history : List Registration) :
    ∃ written, (∀ documents, CountsAs history documents ↔ documents = written) ∧
      (∀ id version, (after history).find? id (.exact version) =
        written.reverse.find? fun document => document.id = id ∧ document.version = version) ∧
      (after history).size = (written.map idAndVersion).dedup.length ∧
      ((after history).isEmpty = true ↔ (after history).size = 0) ∧
      ∀ entry ∈ (after history).flows, entry.2 ≠ [] := by
  have lists := lists_after history
  refine ⟨_, fun _ => countsAs_iff, ?_, ?_, ?_, lists.occupied⟩
  · rw [after_eq]
    exact find?_registerAll _
  · rw [after_eq]
    exact size_registerAll _
  · rw [lists.isEmpty_iff, lists.size_eq, List.length_eq_zero_iff]

/-! ## Asking for the declared version -/

theorem distinct_after (history : List Registration) : Distinct (after history).documents := by
  rw [after_eq]
  exact distinct_registerAll _

/-- A held document is what a request for its exact version is answered with. -/
theorem find?_exact_of_mem {library : Library} {document : FlowDocument}
    (distinct : Distinct library.documents) (held : document ∈ library.documents) :
    library.find? document.id (.exact document.version) = some document := by
  refine find?_eq_some_of_unique held rfl (beq_self_eq_true _) fun other isOther sameId accepted => ?_
  have sameVersion : document.version = other.version := eq_of_beq accepted
  refine List.inj_on_of_nodup_map distinct.nodup_map isOther held ?_
  exact Prod.ext sameId sameVersion.symm

/-- A request for any version of a held document is answered with a version of its flow, and with the
highest one if one of them is higher than all others. -/
theorem find?_any_of_mem {library : Library} {document : FlowDocument}
    (distinct : Distinct library.documents) (held : document ∈ library.documents) :
    ∃ other ∈ library.documents, other.id = document.id ∧
      library.find? document.id .any = some other ∧
      ∀ top, IsHighest (versionsOf document.id library.documents) top → other.version = top := by
  have isAnswered : (library.find? document.id .any).isSome = true :=
    isSome_find?_of_mem held rfl rfl
  obtain ⟨other, found⟩ := Option.isSome_iff_exists.1 isAnswered
  obtain ⟨isHeld, sameId, -⟩ := mem_candidates_of_find? found
  refine ⟨other, isHeld, sameId, found, fun top highest => ?_⟩
  have versions := Distinct.nodup_versions (distinct.filter fun kept => kept.id == document.id)
    fun kept member => eq_of_beq (List.mem_filter.1 member).2
  obtain ⟨leading, isLeading, rfl⟩ := List.mem_map.1 highest.member
  have isAnswer : library.find? document.id .any = some leading := by
    simpa [find?, candidates_eq_filter, VersionRequest.accepts] using
      highest?_eq_some highest versions isLeading
  rw [Option.some.inj (found.symm.trans isAnswer)]

end Library

namespace VersionRequest

variable {version : String}

theorem ofText_eq_exact (trimmed : Text.trim version = version) (notEmpty : version ≠ "")
    (notAny : version ≠ anyText) : ofText (some version) = .exact version := by
  simp [ofText, trimmed, notEmpty, notAny]

theorem ofText_eq_any (asksForAny : version = "" ∨ version = anyText) :
    ofText (some version) = .any := by
  rcases asksForAny with rfl | rfl
  · rfl
  · rfl

end VersionRequest

namespace Library

/-- **Documents are found by the version they declare**, if the version has no blanks at its ends and
names one: the empty text and `*` ask for any version, and the highest one is found. -/
theorem answers_declared_version (history : List Registration) {document : FlowDocument}
    (held : document ∈ (after history).documents) :
    (Text.trim document.version = document.version → document.version ≠ "" →
        document.version ≠ VersionRequest.anyText →
      (after history).find? document.id (.ofText (some document.version)) = some document) ∧
    (document.version = "" ∨ document.version = VersionRequest.anyText →
      ∃ other ∈ (after history).documents, other.id = document.id ∧
        (after history).find? document.id (.ofText (some document.version)) = some other ∧
        ∀ top, IsHighest (versionsOf document.id (after history).documents) top →
          other.version = top) := by
  have distinct := distinct_after history
  constructor
  · intro trimmed notEmpty notAny
    rw [VersionRequest.ofText_eq_exact trimmed notEmpty notAny]
    exact find?_exact_of_mem distinct held
  · intro asksForAny
    rw [VersionRequest.ofText_eq_any asksForAny]
    exact find?_any_of_mem distinct held

/-- A flow in version `*`. -/
def starred : FlowDocument := ⟨"x", "*", [], [], []⟩

/-- The same flow in version `beta 2`, with a node. -/
def beta : FlowDocument := ⟨"x", "beta 2", [⟨"start", "start", []⟩], [], []⟩

/-- Both versions are registered, one of them as a flow that is embedded in another version. -/
def betaHistory : List Registration :=
  [.whole starred, .unpacked ⟨"x", "1", [], [], [beta]⟩]

theorem answers_declared_version_of_beta :
    (beta ∈ (after betaHistory).documents ∧ Text.trim beta.version = beta.version ∧
      beta.version ≠ "" ∧ beta.version ≠ VersionRequest.anyText ∧
      (after betaHistory).find? beta.id (.ofText (some beta.version)) = some beta) ∧
    starred ∈ (after betaHistory).documents ∧ starred.version = VersionRequest.anyText ∧
      ∃ other ∈ (after betaHistory).documents, other.id = starred.id ∧
        (after betaHistory).find? starred.id (.ofText (some starred.version)) = some other ∧
        ∀ top, IsHighest (versionsOf starred.id (after betaHistory).documents) top →
          other.version = top := by
  have documents : (after betaHistory).documents = [starred, beta, ⟨"x", "1", [], [], []⟩] := rfl
  have isHeld : beta ∈ (after betaHistory).documents := by simp [documents]
  have isStarred : starred ∈ (after betaHistory).documents := by simp [documents]
  have trimmed : Text.trim beta.version = beta.version := by decide
  have named : beta.version ≠ "" ∧ beta.version ≠ VersionRequest.anyText := by decide
  exact ⟨⟨isHeld, trimmed, named.1, named.2,
    (answers_declared_version betaHistory isHeld).1 trimmed named.1 named.2⟩,
    isStarred, rfl, (answers_declared_version betaHistory isStarred).2 (.inr rfl)⟩

/-- Who asks for the version that `starred` declares gets another version. -/
theorem not_answered_with_starred :
    starred ∈ (after [.whole starred, .whole beta]).documents ∧
      (after [.whole starred, .whole beta]).find? starred.id (.ofText (some starred.version)) =
        some beta ∧
      beta ≠ starred := by
  refine ⟨?_, rfl, fun same => ?_⟩
  · exact List.mem_cons_self
  · exact absurd (congrArg FlowDocument.version same) (by decide)

end Library

end DecisionFlow
