import DecisionFlow.Json.Basic

/-!
# Flow documents

A document describes a flow before it is compiled: nodes with a kind and raw JSON parameters, edges
between them, and the sub-flows that are shipped with it. Nothing about it has been checked yet.
-/

set_option autoImplicit false

namespace DecisionFlow

/-- A node as written: its parameters are read when its kind is known. -/
structure NodeDocument where
  id : String
  kind : String
  parameters : Entries Json

/-- An edge as written: its label is read when the kind of its source is known. -/
structure EdgeDocument where
  source : String
  target : String
  label : Option String

/-- A flow as written, with the flows embedded in it. -/
structure FlowDocument where
  id : String
  version : String
  nodes : List NodeDocument
  edges : List EdgeDocument
  subflows : List FlowDocument

/-- How a flow is named in messages and while it is being compiled. -/
def flowKey (id version : String) : String :=
  id ++ "@" ++ version

/-- Of flows with the same id, the key tells the version. -/
theorem flowKey_right_inj {id version other : String} (same : flowKey id version = flowKey id other) :
    version = other := by
  simpa [flowKey, String.append_assoc] using same

namespace FlowDocument

/-- The key of a document. -/
def key (document : FlowDocument) : String :=
  flowKey document.id document.version

/-- The document without its embedded flows. -/
def bare (document : FlowDocument) : FlowDocument :=
  { document with subflows := [] }

mutual

/-- The number of flows in a document: itself and all flows embedded in it, at every depth. -/
def flowCount : FlowDocument → Nat
  | ⟨_, _, _, _, subflows⟩ => flowCounts subflows + 1

def flowCounts : List FlowDocument → Nat
  | [] => 0
  | document :: rest => flowCount document + flowCounts rest

end

end FlowDocument

end DecisionFlow
