import DecisionFlow.Proofs.Library.Listing
import Mathlib.Data.List.Forall2
import Mathlib.Data.List.Induction
import Mathlib.Data.List.Nodup

/-!
# What a library answers

A request is answered with a document that the library holds and that is what was asked for. A
document that embeds flows with different keys, none of which embeds others, brings a library with
it: the document without its embedded flows, followed by these.
-/

set_option autoImplicit false

namespace DecisionFlow

namespace Library

variable {library : Library} {id : String} {request : VersionRequest} {document : FlowDocument}

/-! ## Answers -/

theorem higher_eq_or (first second : FlowDocument) :
    higher first second = first ∨ higher first second = second := by
  unfold higher
  split
  · exact .inl rfl
  · exact .inr rfl

theorem foldl_higher_mem (first : FlowDocument) (rest : List FlowDocument) :
    rest.foldl higher first ∈ first :: rest := by
  induction rest generalizing first with
  | nil => exact List.mem_cons_self
  | cons second rest ih =>
      have member := ih (higher first second)
      rw [List.foldl_cons]
      rcases List.mem_cons.1 member with isChosen | later
      · rw [isChosen]
        rcases higher_eq_or first second with isFirst | isSecond
        · rw [isFirst]
          exact List.mem_cons_self
        · rw [isSecond]
          exact List.mem_cons_of_mem _ List.mem_cons_self
      · exact List.mem_cons_of_mem _ (List.mem_cons_of_mem _ later)

theorem mem_of_highest? {documents : List FlowDocument} (found : highest? documents = some document) :
    document ∈ documents := by
  cases documents with
  | nil => cases found
  | cons first rest =>
      cases found
      exact foldl_higher_mem first rest

/-- What answers a request can answer it. -/
theorem mem_candidates_of_find? (found : library.find? id request = some document) :
    document ∈ library.documents ∧ document.id = id ∧ request.accepts document.version = true := by
  have member := mem_of_highest? found
  simpa [candidates_eq_filter] using member

/-- A document that can answer a request is found, or another one is. -/
theorem isSome_find?_of_mem (member : document ∈ library.documents) (isId : document.id = id)
    (accepted : request.accepts document.version = true) :
    (library.find? id request).isSome = true := by
  have isCandidate : document ∈ library.candidates id request := by
    simp [candidates_eq_filter, member, isId, accepted]
  rw [find?]
  cases documents : library.candidates id request with
  | nil => simp [documents] at isCandidate
  | cons first rest => rfl

/-- A document that is the only one to answer a request is found. -/
theorem find?_eq_some_of_unique (member : document ∈ library.documents) (isId : document.id = id)
    (accepted : request.accepts document.version = true)
    (unique : ∀ other ∈ library.documents, other.id = id → request.accepts other.version = true →
      other = document) : library.find? id request = some document := by
  obtain ⟨other, found⟩ :=
    Option.isSome_iff_exists.1 (isSome_find?_of_mem member isId accepted)
  obtain ⟨otherMember, otherId, otherAccepted⟩ := mem_candidates_of_find? found
  rw [found, unique other otherMember otherId otherAccepted]

/-! ## Registration -/

theorem sameFlow_eq_false_of_key_ne {other : FlowDocument} (different : document.key ≠ other.key) :
    sameFlow document other = false := by
  rw [sameFlow, Bool.and_eq_false_iff, beq_eq_false_iff_ne, beq_eq_false_iff_ne]
  by_cases sameId : document.id = other.id
  · refine .inr fun sameVersion => different ?_
    rw [FlowDocument.key, FlowDocument.key, sameId, sameVersion]
  · exact .inl sameId

theorem distinct_of_nodup_keys {documents : List FlowDocument}
    (distinct : (documents.map FlowDocument.key).Nodup) : Distinct documents :=
  (List.pairwise_map.1 distinct).imp sameFlow_eq_false_of_key_ne

theorem flatten_of_bare (bare : document.subflows = []) : flatten document = [document] := by
  obtain ⟨id, version, nodes, edges, subflows⟩ := document
  cases bare
  simp [flatten, flattenAll]

theorem flattenAll_of_bare {documents : List FlowDocument}
    (bare : ∀ embedded ∈ documents, embedded.subflows = []) : flattenAll documents = documents := by
  induction documents with
  | nil => rfl
  | cons first rest ih =>
      obtain ⟨isBare, later⟩ := List.forall_mem_cons.1 bare
      rw [flattenAll, flatten_of_bare isBare, ih later, List.singleton_append]

theorem mem_of_mem_registerAll {documents : List FlowDocument} {other : FlowDocument}
    (member : other ∈ (library.registerAll documents).documents) :
    other ∈ library.documents ∨ other ∈ documents := by
  induction documents generalizing library with
  | nil => exact .inl member
  | cons first rest ih =>
      have registered : other ∈ ((library.register first).registerAll rest).documents := member
      rcases ih registered with before | later
      · rcases mem_documents_register.1 before with ⟨before, -⟩ | rfl
        · exact .inl before
        · exact .inr List.mem_cons_self
      · exact .inr (List.mem_cons_of_mem _ later)

/-! ## What is embedded -/

mutual

/-- What is registered embeds nothing. -/
theorem subflows_of_mem_flatten : ∀ (document : FlowDocument) {other : FlowDocument},
    other ∈ flatten document → other.subflows = []
  | ⟨id, version, nodes, edges, subflows⟩, other, member => by
    rcases List.mem_append.1 member with deeper | last
    · exact subflows_of_mem_flattenAll subflows deeper
    · rw [List.mem_singleton.1 last]

theorem subflows_of_mem_flattenAll : ∀ (documents : List FlowDocument) {other : FlowDocument},
    other ∈ flattenAll documents → other.subflows = []
  | first :: rest, other, member => by
    rcases List.mem_append.1 member with inFirst | later
    · exact subflows_of_mem_flatten first inFirst
    · exact subflows_of_mem_flattenAll rest later

end

/-- A document is registered after what it embeds. -/
theorem flatten_eq (document : FlowDocument) :
    flatten document = flattenAll document.subflows ++ [document.bare] := by
  obtain ⟨id, version, nodes, edges, subflows⟩ := document
  rw [flatten]
  rfl

theorem flatten_subset_flattenAll {documents : List FlowDocument} (member : document ∈ documents) :
    flatten document ⊆ flattenAll documents := by
  induction documents with
  | nil => cases member
  | cons first rest ih =>
      rw [flattenAll]
      rcases List.mem_cons.1 member with rfl | later
      · exact List.subset_append_left _ _
      · exact List.Subset.trans (ih later) (List.subset_append_right _ _)

/-! ## Documents that are kept -/

/-- The library holds the document, and no other one with its id and version. -/
structure Keeps (library : Library) (document : FlowDocument) : Prop where
  member : document ∈ library.documents
  only : ∀ other ∈ library.documents, sameFlow document other = true → other = document

theorem keeps_register_self (library : Library) (document : FlowDocument) :
    (library.register document).Keeps document := by
  refine ⟨mem_documents_register.2 (.inr rfl), fun other member same => ?_⟩
  rcases mem_documents_register.1 member with ⟨-, different⟩ | isSelf
  · cases same.symm.trans different
  · exact isSelf

/-- A document is kept unless another one with its id and version is registered. -/
theorem Keeps.register {other : FlowDocument} (keeps : library.Keeps document)
    (spared : sameFlow document other = true → other = document) :
    (library.register other).Keeps document := by
  refine ⟨mem_documents_register.2 ?_, fun kept member same => ?_⟩
  · cases same : sameFlow other document with
    | false => exact .inl ⟨keeps.member, rfl⟩
    | true =>
        obtain ⟨sameId, sameVersion⟩ := sameFlow_iff.1 same
        exact .inr (spared (sameFlow_iff.2 ⟨sameId.symm, sameVersion.symm⟩)).symm
  · rcases mem_documents_register.1 member with ⟨before, -⟩ | rfl
    · exact keeps.only kept before same
    · exact spared same

theorem Keeps.registerAll {documents : List FlowDocument} (keeps : library.Keeps document)
    (spared : ∀ other ∈ documents, sameFlow document other = true → other = document) :
    (library.registerAll documents).Keeps document := by
  induction documents generalizing library with
  | nil => exact keeps
  | cons first rest ih =>
      obtain ⟨here, later⟩ := List.forall_mem_cons.1 spared
      exact ih (keeps.register here) later

/-- Of several documents with one id and version, the last registered is kept. -/
theorem keeps_registerAll_of_getLast? {documents : List FlowDocument} {version : String}
    (isLast : (documents.filter fun other => other.id == id && other.version == version).getLast? =
      some document) : (library.registerAll documents).Keeps document := by
  induction documents using List.reverseRecOn with
  | nil => cases isLast
  | append_singleton earlier last ih =>
      have registered : library.registerAll (earlier ++ [last]) =
          (library.registerAll earlier).register last := by
        simp [registerAll]
      rw [registered]
      rw [List.filter_append] at isLast
      cases matching : last.id == id && last.version == version with
      | true =>
          have isOwn : last = document := by simpa [matching] using isLast
          rw [isOwn]
          exact keeps_register_self _ _
      | false =>
          have found : (earlier.filter fun other =>
              other.id == id && other.version == version).getLast? = some document := by
            simpa [matching] using isLast
          refine (ih found).register fun same => ?_
          obtain ⟨sameId, sameVersion⟩ := sameFlow_iff.1 same
          have asked := List.of_mem_filter (List.mem_of_getLast? found)
          rw [sameId, sameVersion, matching] at asked
          cases asked

/-! ## Candidates -/

/-- A registered document takes the place of the one with its id and version among the candidates for
a request, if it is one. -/
theorem candidates_register (library : Library) (document : FlowDocument) :
    (library.register document).candidates id request =
      (library.candidates id request).filter (fun other => !sameFlow document other) ++
        [document].filter (fun registered =>
          registered.id == id && request.accepts registered.version) := by
  rw [candidates, candidates, versions_register, List.filter_append, List.filter_comm]
  simp only [List.filter_filter, Bool.and_comm]

/-- Only the candidates for a request matter for those after more registrations. -/
theorem candidates_registerAll_congr {other : Library} {documents : List FlowDocument}
    (same : library.candidates id request = other.candidates id request) :
    (library.registerAll documents).candidates id request =
      (other.registerAll documents).candidates id request := by
  induction documents generalizing library other with
  | nil => exact same
  | cons first rest ih => exact ih (by rw [candidates_register, candidates_register, same])

/-! ## Numbers of documents -/

mutual

/-- As many flows are registered as a document consists of. -/
theorem length_flatten : ∀ document : FlowDocument, (flatten document).length = document.flowCount
  | ⟨id, version, nodes, edges, subflows⟩ => by
    rw [flatten, FlowDocument.flowCount, List.length_append, length_flattenAll subflows]
    rfl

theorem length_flattenAll : ∀ documents : List FlowDocument,
    (flattenAll documents).length = FlowDocument.flowCounts documents
  | [] => rfl
  | first :: rest => by
    rw [flattenAll, FlowDocument.flowCounts, List.length_append, length_flatten first,
      length_flattenAll rest]

end

end Library

/-! ## The library of a document -/

namespace FlowDocument

/-- Documents that embed nothing are as many flows as there are documents. -/
theorem flowCounts_of_bare {documents : List FlowDocument}
    (bare : ∀ document ∈ documents, document.subflows = []) :
    flowCounts documents = documents.length := by
  induction documents with
  | nil => rfl
  | cons first rest ih =>
      obtain ⟨isBare, later⟩ := List.forall_mem_cons.1 bare
      obtain ⟨id, version, nodes, edges, subflows⟩ := first
      cases isBare
      rw [flowCounts, flowCount, flowCounts, ih later, List.length_cons]
      omega

/-- The flows that can be called from a document: itself and the flows that it embeds. -/
def library (document : FlowDocument) : Library :=
  document.subflows.foldl Library.registerWithEmbedded (Library.empty.register document.bare)

/-- The document itself is registered first, and then what it embeds, at every depth. -/
theorem library_eq (document : FlowDocument) : document.library =
    (Library.empty.register document.bare).registerAll (Library.flattenAll document.subflows) :=
  Library.foldl_registerWithEmbedded _ _

/-- What can be called from a document is the document itself or a flow that it embeds at some
depth. -/
theorem mem_of_mem_library {document other : FlowDocument}
    (member : other ∈ document.library.documents) :
    other ∈ document.bare :: Library.flattenAll document.subflows := by
  rw [library_eq] at member
  rcases Library.mem_of_mem_registerAll member with before | flattened
  · rcases Library.mem_documents_register.1 before with ⟨nothing, -⟩ | rfl
    · cases nothing
    · exact List.mem_cons_self
  · exact List.mem_cons_of_mem _ flattened

/-- What can be called from a document embeds nothing. -/
theorem subflows_of_mem_library {document other : FlowDocument}
    (member : other ∈ document.library.documents) : other.subflows = [] := by
  rcases List.mem_cons.1 (mem_of_mem_library member) with rfl | flattened
  · rfl
  · exact Library.subflows_of_mem_flattenAll _ flattened

/-- **A document brings what it embeds**, if the keys are different and nothing is embedded
deeper. -/
theorem lists_library {document : FlowDocument}
    (bare : ∀ embedded ∈ document.subflows, embedded.subflows = [])
    (distinct : ((document.bare :: document.subflows).map key).Nodup) :
    document.library.Lists (document.bare :: document.subflows) := by
  rw [library_eq, Library.flattenAll_of_bare bare]
  exact Library.lists_registerAll_of_distinct (Library.distinct_of_nodup_keys distinct)

end FlowDocument

/-! ## Libraries that are the same but for a key -/

/-- Documents of one flow and version that embed the same flows, and that are the same unless they
have the key. -/
structure FlowDocument.EqualUnless (key : String) (document other : FlowDocument) : Prop where
  id_eq : document.id = other.id
  version_eq : document.version = other.version
  subflows_eq : document.subflows = other.subflows
  eq_of_key_ne : document.key ≠ key → document = other

namespace FlowDocument

variable {key : String} {document other : FlowDocument}

theorem EqualUnless.refl (key : String) (document : FlowDocument) : document.EqualUnless key document :=
  ⟨rfl, rfl, rfl, fun _ => rfl⟩

theorem EqualUnless.key_eq (equal : document.EqualUnless key other) : document.key = other.key :=
  congrArg₂ flowKey equal.id_eq equal.version_eq

end FlowDocument

namespace Library

variable {key : String} {library other : Library}

/-- Libraries with the same versions of every flow in order, unless they have the key. -/
def EqualUnless (key : String) (library other : Library) : Prop :=
  ∀ id, List.Forall₂ (FlowDocument.EqualUnless key) (library.versions id) (other.versions id)

theorem equalUnless_refl (key : String) (library : Library) : library.EqualUnless key library :=
  fun _ => List.forall₂_same.2 fun document _ => .refl key document

theorem EqualUnless.register {document document' : FlowDocument}
    (equal : library.EqualUnless key other) (same : document.EqualUnless key document') :
    (library.register document).EqualUnless key (other.register document') := by
  intro id
  rw [versions_register, versions_register]
  refine List.rel_append (List.rel_filter (fun kept kept' sameKept => ?_) (equal id))
    (List.rel_filter (fun registered registered' sameRegistered => ?_) (.cons same .nil))
  · simp only [sameFlow, same.id_eq, same.version_eq, sameKept.id_eq, sameKept.version_eq]
  · simp only [sameRegistered.id_eq]

theorem EqualUnless.registerAll {documents : List FlowDocument}
    (equal : library.EqualUnless key other) :
    (library.registerAll documents).EqualUnless key (other.registerAll documents) := by
  induction documents generalizing library other with
  | nil => exact equal
  | cons first rest ih => exact ih (equal.register (.refl key first))

theorem equalUnless_higher {first first' second second' : FlowDocument}
    (same : first.EqualUnless key first') (same' : second.EqualUnless key second') :
    (higher first second).EqualUnless key (higher first' second') := by
  rw [higher, higher, same.version_eq, same'.version_eq]
  split
  · exact same
  · exact same'

theorem equalUnless_highest? {documents documents' : List FlowDocument}
    (same : List.Forall₂ (FlowDocument.EqualUnless key) documents documents') :
    Option.Rel (FlowDocument.EqualUnless key) (highest? documents) (highest? documents') := by
  cases same with
  | nil => exact .none
  | cons first rest =>
      have folded := List.rel_foldl (P := FlowDocument.EqualUnless key)
        (R := FlowDocument.EqualUnless key)
        (fun _ _ same _ _ same' => equalUnless_higher same same') first rest
      exact .some folded

/-- Which document is found depends on ids and versions only. -/
theorem EqualUnless.find? (equal : library.EqualUnless key other) (id : String)
    (request : VersionRequest) :
    Option.Rel (FlowDocument.EqualUnless key) (library.find? id request)
      (other.find? id request) := by
  have candidates : List.Forall₂ (FlowDocument.EqualUnless key) (library.candidates id request)
      (other.candidates id request) := by
    refine List.rel_filter (fun document document' same => ?_) (equal id)
    simp only [same.version_eq]
  exact equalUnless_highest? candidates

end Library

end DecisionFlow
