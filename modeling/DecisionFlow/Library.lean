import DecisionFlow.Document.Basic
import DecisionFlow.Version

/-!
# Libraries of flows

A library holds flow documents by the ids of their flows, and under each id the versions of the flow in
the order in which they were last registered. A request for an exact version finds the document that was
last registered under it; a request for any version finds one with the highest version.
-/

set_option autoImplicit false

namespace DecisionFlow

/-- Lists of documents under the ids of their flows. No id is written twice, and only documents of its
flow are listed under it. -/
structure Library where
  flows : Entries (List FlowDocument)
  increasing : flows.Increasing
  ownId : ∀ entry ∈ flows, ∀ document ∈ entry.2, document.id = entry.1

namespace Library

/-- The library without flows. -/
def empty : Library where
  flows := []
  increasing := .nil
  ownId := by
    rintro entry ⟨⟩

/-- The documents under an id, of which there are none if nothing was registered under it. -/
def versions (library : Library) (id : String) : List FlowDocument :=
  (library.flows.find? id).getD []

/-- Under the id of a flow there are documents of this flow. -/
theorem id_of_mem_versions {library : Library} {id : String} {document : FlowDocument}
    (member : document ∈ library.versions id) : document.id = id := by
  unfold versions at member
  cases found : library.flows.find? id with
  | none => simp [found] at member
  | some listed =>
      rw [found] at member
      exact library.ownId (id, listed) (Entries.mem_of_find? found) document member

/-- Puts a document behind other versions of its flow and drops the one with the same version. -/
def addVersion (versions : List FlowDocument) (document : FlowDocument) : List FlowDocument :=
  versions.filter (fun other => other.version != document.version) ++ [document]

/-- Adds a document and drops the one with the same id and version. -/
def register (library : Library) (document : FlowDocument) : Library where
  flows := library.flows.insert document.id (addVersion (library.versions document.id) document)
  increasing := Entries.increasing_insert library.increasing _ _
  ownId := by
    intro entry isEntry listed isListed
    rcases Entries.mem_insert isEntry with rfl | earlier
    · rcases List.mem_append.1 isListed with kept | last
      · exact id_of_mem_versions (List.mem_filter.1 kept).1
      · rw [List.mem_singleton.1 last]
    · exact library.ownId entry earlier listed isListed

/-- Registers documents one after the other. -/
def registerAll (library : Library) (documents : List FlowDocument) : Library :=
  documents.foldl register library

mutual

/-- Adds a document and the flows embedded in it, each as a document of its own: first every embedded
flow with what it embeds, and then the document without them. -/
def registerWithEmbedded (library : Library) : FlowDocument → Library
  | ⟨id, version, nodes, edges, subflows⟩ =>
    (library.registerEachWithEmbedded subflows).register ⟨id, version, nodes, edges, []⟩

def registerEachWithEmbedded (library : Library) : List FlowDocument → Library
  | [] => library
  | document :: rest => (library.registerWithEmbedded document).registerEachWithEmbedded rest

end

/-- All documents, flow by flow. -/
def documents (library : Library) : List FlowDocument :=
  library.flows.flatMap Prod.snd

/-- The number of documents: the versions of all flows are counted. -/
def size (library : Library) : Nat :=
  library.flows.foldr (fun entry total => entry.2.length + total) 0

/-- Nothing is written under any id. -/
def isEmpty (library : Library) : Bool :=
  library.flows.isEmpty

/-- Of two documents the one with the higher version, and the second if neither is higher. -/
def higher (first second : FlowDocument) : FlowDocument :=
  match compareVersions first.version second.version with
  | .gt => first
  | _ => second

/-- The document that remains when each is compared with the next. -/
def highest? : List FlowDocument → Option FlowDocument
  | [] => none
  | first :: rest => some (rest.foldl higher first)

/-- The documents that a request can be answered with. -/
def candidates (library : Library) (id : String) (request : VersionRequest) :
    List FlowDocument :=
  (library.versions id).filter fun document => request.accepts document.version

/-- The document that answers a request. -/
def find? (library : Library) (id : String) (request : VersionRequest) : Option FlowDocument :=
  highest? (library.candidates id request)

end Library

end DecisionFlow
