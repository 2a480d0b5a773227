import DecisionFlow.Library
import DecisionFlow.Proofs.Entries
import Mathlib.Data.List.Perm.Basic

/-!
# Libraries as lists

A library keeps the versions of each flow by themselves. What it answers can be told of a single list of
documents, in which a registration deletes the document with the same id and version and writes the new
one at the end (`enlist`). A library lists such documents (`Library.Lists`) if those of each flow stand
under its id, in their order, and if nothing else is written: there is no id without documents. A
registration keeps it so (`Library.Lists.register`), and so does one of a document with everything that it
embeds, which is the same as several registrations one after the other
(`Library.registerWithEmbedded_eq`).

It follows what requests are answered with, how many documents there are, and that a library is empty
exactly if it lists nothing.
-/

set_option autoImplicit false

namespace DecisionFlow

namespace Library

variable {library : Library} {document other : FlowDocument} {documents : List FlowDocument}
  {id : String} {request : VersionRequest}

/-- Two documents describe the same version of the same flow. -/
def sameFlow (document other : FlowDocument) : Bool :=
  document.id == other.id && document.version == other.version

theorem sameFlow_iff :
    sameFlow document other = true ↔ document.id = other.id ∧ document.version = other.version := by
  simp [sameFlow]

theorem sameFlow_comm (document other : FlowDocument) :
    sameFlow document other = sameFlow other document := by
  rw [sameFlow, sameFlow, Bool.beq_comm, Bool.beq_comm (a := document.version)]

/-! ## Documents under ids -/

theorem versions_of_mem_flows {entry : String × List FlowDocument} (isEntry : entry ∈ library.flows) :
    library.versions entry.1 = entry.2 := by
  rw [versions, (Entries.mem_iff_find?_eq_some library.increasing).1 isEntry]
  rfl

/-- In entries that write each id once and only for its own documents, these are all documents with the
id. -/
theorem getD_find?_eq_filter {entries : Entries (List FlowDocument)} (increasing : entries.Increasing)
    (ownId : ∀ entry ∈ entries, ∀ document ∈ entry.2, document.id = entry.1) (id : String) :
    (entries.find? id).getD [] =
      (entries.flatMap Prod.snd).filter fun document => document.id == id := by
  induction entries with
  | nil => rfl
  | cons entry rest ih =>
      obtain ⟨above, increasing⟩ := List.pairwise_cons.1 increasing
      obtain ⟨here, later⟩ := List.forall_mem_cons.1 ownId
      rw [List.flatMap_cons, List.filter_append, ← ih increasing later, Entries.find?_cons]
      by_cases own : entry.1 = id
      · have absent : Entries.find? rest id = none := by
          refine Option.eq_none_iff_forall_ne_some.2 fun listed found => ?_
          exact String.ne_of_lt (above _ (Entries.mem_of_find? found)) own
        have kept : entry.2.filter (fun document => document.id == id) = entry.2 :=
          List.filter_eq_self.2 fun document member => by simp [here document member, own]
        rw [if_pos own, absent, kept]
        simp
      · have dropped : entry.2.filter (fun document => document.id == id) = [] :=
          List.filter_eq_nil_iff.2 fun document member => by simp [here document member, own]
        rw [if_neg own, dropped, List.nil_append]

/-- What stands under an id are the documents with this id. -/
theorem versions_eq_filter (library : Library) (id : String) :
    library.versions id = library.documents.filter fun document => document.id == id :=
  getD_find?_eq_filter library.increasing library.ownId id

theorem mem_versions_iff :
    document ∈ library.versions id ↔ document ∈ library.documents ∧ document.id = id := by
  simp [versions_eq_filter]

/-- A request can be answered with every document that has the id and a version that is asked for. -/
theorem candidates_eq_filter (library : Library) (id : String) (request : VersionRequest) :
    library.candidates id request = library.documents.filter fun document =>
      document.id == id && request.accepts document.version := by
  rw [candidates, versions_eq_filter, List.filter_filter]
  simp only [Bool.and_comm]

/-- The versions of all flows are all documents. -/
theorem size_eq_length (library : Library) : library.size = library.documents.length := by
  rw [documents, List.length_flatMap, List.sum_eq_foldr, List.foldr_map, size]

/-- A registration replaces the document with the same id and version, wherever one looks. -/
theorem versions_register (library : Library) (document : FlowDocument) (id : String) :
    (library.register document).versions id =
      (library.versions id).filter (fun other => !sameFlow document other) ++
        [document].filter (fun registered => registered.id == id) := by
  by_cases own : id = document.id
  · subst own
    have written : (library.register document).versions document.id =
        addVersion (library.versions document.id) document := by
      rw [versions, register, Entries.find?_insert_self]
      rfl
    rw [written, addVersion]
    congr 1
    · refine List.filter_congr fun other member => ?_
      simp [sameFlow, id_of_mem_versions member, bne, Bool.beq_comm (a := document.version)]
    · simp
  · have untouched : (library.register document).versions id = library.versions id := by
      rw [versions, register, Entries.find?_insert_of_ne own]
      rfl
    have others : (library.versions id).filter (fun other => !sameFlow document other) =
        library.versions id := by
      refine List.filter_eq_self.2 fun other member => ?_
      simp [sameFlow, id_of_mem_versions member, Ne.symm own]
    rw [untouched, others]
    simp [Ne.symm own]

/-- After a registration the library holds the document itself and the documents of other flows and
versions. -/
theorem mem_documents_register :
    other ∈ (library.register document).documents ↔
      (other ∈ library.documents ∧ sameFlow document other = false) ∨ other = document := by
  have here (library : Library) : other ∈ library.documents ↔ other ∈ library.versions other.id := by
    simp [mem_versions_iff]
  rw [here, here, versions_register]
  simp only [List.mem_append, List.mem_filter, Bool.not_eq_true', List.mem_singleton, beq_iff_eq,
    and_true]

/-! ## One list of all documents -/

/-- The list of documents after the registration of another one. -/
def enlist (documents : List FlowDocument) (document : FlowDocument) : List FlowDocument :=
  documents.filter (fun other => !sameFlow document other) ++ [document]

/-- The library consists of the listed documents, flow by flow. -/
structure Lists (library : Library) (documents : List FlowDocument) : Prop where
  versions_eq : ∀ id, library.versions id = documents.filter fun document => document.id == id
  /-- An id is written only for its documents. -/
  occupied : ∀ entry ∈ library.flows, entry.2 ≠ []

theorem lists_empty : empty.Lists [] where
  versions_eq _ := rfl
  occupied := by
    rintro entry ⟨⟩

/-- A registration is one in the list. -/
theorem Lists.register (lists : library.Lists documents) (document : FlowDocument) :
    (library.register document).Lists (enlist documents document) := by
  refine ⟨fun id => ?_, fun entry isEntry => ?_⟩
  · rw [versions_register, lists.versions_eq, enlist, List.filter_append, List.filter_comm]
  · rcases Entries.mem_insert isEntry with rfl | earlier
    · simp [addVersion]
    · exact lists.occupied entry earlier

theorem Lists.registerAll {listed : List FlowDocument} (lists : library.Lists listed)
    (documents : List FlowDocument) :
    (library.registerAll documents).Lists (documents.foldl enlist listed) := by
  induction documents generalizing library listed with
  | nil => exact lists
  | cons first rest ih => exact ih (lists.register first)

/-- A request is answered as if all documents of the list were looked through. -/
theorem Lists.find?_eq (lists : library.Lists documents) (id : String) (request : VersionRequest) :
    library.find? id request = highest? (documents.filter fun document =>
      document.id == id && request.accepts document.version) := by
  rw [find?, candidates, lists.versions_eq, List.filter_filter]
  simp only [Bool.and_comm]

/-- The documents are those of the list, in another order. -/
theorem Lists.perm (lists : library.Lists documents) : library.documents.Perm documents := by
  classical
  refine List.perm_iff_count.2 fun document => ?_
  have ofFlow (listed : List FlowDocument) :
      (listed.filter fun other => other.id == document.id).count document = listed.count document :=
    List.count_filter (beq_self_eq_true document.id)
  rw [← ofFlow, ← versions_eq_filter, lists.versions_eq, ofFlow]

theorem Lists.size_eq (lists : library.Lists documents) : library.size = documents.length := by
  rw [size_eq_length, lists.perm.length_eq]

/-- An empty library lists nothing, since no id is left when its documents are gone. -/
theorem Lists.isEmpty_iff (lists : library.Lists documents) :
    library.isEmpty = true ↔ documents = [] := by
  rw [isEmpty, List.isEmpty_iff]
  constructor
  · intro isEmpty
    have nothing := lists.perm
    rw [Library.documents, isEmpty] at nothing
    exact nothing.nil_eq.symm
  · rintro rfl
    refine List.eq_nil_iff_forall_not_mem.2 fun entry isEntry => lists.occupied entry isEntry ?_
    rw [← versions_of_mem_flows isEntry, lists.versions_eq]
    rfl

/-! ## Different documents -/

/-- No two documents have the same id and version. -/
def Distinct (documents : List FlowDocument) : Prop :=
  documents.Pairwise fun document other => sameFlow document other = false

instance (documents : List FlowDocument) : Decidable (Distinct documents) :=
  inferInstanceAs (Decidable (documents.Pairwise _))

theorem Distinct.perm {order : List FlowDocument} (distinct : Distinct documents)
    (rearranged : order.Perm documents) : Distinct order := by
  apply (rearranged.pairwise_iff _).2 distinct
  intro document other different
  rwa [sameFlow_comm]

theorem distinct_enlist (distinct : Distinct documents) (document : FlowDocument) :
    Distinct (enlist documents document) := by
  refine List.pairwise_append.2 ⟨distinct.filter _, List.pairwise_singleton _ _, ?_⟩
  intro kept member last isLast
  rw [List.mem_singleton.1 isLast, sameFlow_comm]
  simpa using (List.mem_filter.1 member).2

theorem distinct_foldl_enlist {listed : List FlowDocument} (distinct : Distinct listed)
    (documents : List FlowDocument) : Distinct (documents.foldl enlist listed) := by
  induction documents generalizing listed with
  | nil => exact distinct
  | cons first rest ih => exact ih (distinct_enlist distinct first)

/-- Different documents are listed in the order in which they are registered. -/
theorem foldl_enlist_of_distinct {listed : List FlowDocument}
    (distinct : Distinct (listed ++ documents)) :
    documents.foldl enlist listed = listed ++ documents := by
  induction documents generalizing listed with
  | nil => simp
  | cons first rest ih =>
      have fresh := (List.pairwise_append.1 distinct).2.2
      have added : enlist listed first = listed ++ [first] := by
        rw [enlist, List.append_left_inj]
        refine List.filter_eq_self.2 fun other member => ?_
        rw [sameFlow_comm, fresh other member first List.mem_cons_self]
        rfl
      rw [List.foldl_cons, added, ih]
      · simp
      · simpa using distinct

theorem lists_registerAll_of_distinct (distinct : Distinct documents) :
    (empty.registerAll documents).Lists documents := by
  have listed : documents.foldl enlist [] = documents := foldl_enlist_of_distinct distinct
  have lists := lists_empty.registerAll documents
  rwa [listed] at lists

theorem length_foldl_enlist_le (listed documents : List FlowDocument) :
    (documents.foldl enlist listed).length ≤ listed.length + documents.length := by
  induction documents generalizing listed with
  | nil => exact Nat.le_refl _
  | cons first rest ih =>
      have kept : (enlist listed first).length ≤ listed.length + 1 := by
        simpa [enlist] using List.length_filter_le _ _
      rw [List.foldl_cons, List.length_cons]
      exact (ih _).trans (by omega)

/-! ## Documents with what they embed -/

mutual

/-- The flows of a document in the order in which they are registered: the embedded flows first, at
every depth, and each without what it embeds. -/
def flatten : FlowDocument → List FlowDocument
  | ⟨id, version, nodes, edges, subflows⟩ =>
    flattenAll subflows ++ [⟨id, version, nodes, edges, []⟩]

def flattenAll : List FlowDocument → List FlowDocument
  | [] => []
  | document :: rest => flatten document ++ flattenAll rest

end

theorem registerAll_append (library : Library) (first second : List FlowDocument) :
    library.registerAll (first ++ second) = (library.registerAll first).registerAll second :=
  List.foldl_append

mutual

/-- Who registers a document with what it embeds registers its flows one after the other. -/
theorem registerWithEmbedded_eq (library : Library) : ∀ document : FlowDocument,
    library.registerWithEmbedded document = library.registerAll (flatten document)
  | ⟨id, version, nodes, edges, subflows⟩ => by
    rw [registerWithEmbedded, registerEachWithEmbedded_eq library subflows, flatten,
      registerAll_append]
    rfl

theorem registerEachWithEmbedded_eq (library : Library) : ∀ documents : List FlowDocument,
    library.registerEachWithEmbedded documents = library.registerAll (flattenAll documents)
  | [] => rfl
  | first :: rest => by
    rw [registerEachWithEmbedded, registerWithEmbedded_eq library first,
      registerEachWithEmbedded_eq _ rest, flattenAll, registerAll_append]

end

theorem foldl_registerWithEmbedded (library : Library) (documents : List FlowDocument) :
    documents.foldl registerWithEmbedded library = library.registerAll (flattenAll documents) := by
  induction documents generalizing library with
  | nil => rfl
  | cons first rest ih =>
      rw [List.foldl_cons, ih, registerWithEmbedded_eq, flattenAll, registerAll_append]

end Library

end DecisionFlow
