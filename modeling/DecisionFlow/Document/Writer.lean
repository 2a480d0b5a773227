import DecisionFlow.Document.Basic

/-!
# Writing documents

The JSON value of a document. A label that is absent and an empty list of embedded flows are left
out.
-/

set_option autoImplicit false

namespace DecisionFlow

/-- The JSON value of a node: its parameters stand beside its id and kind. -/
def NodeDocument.toJson (node : NodeDocument) : Json :=
  Json.ofMembers ([("id", .string node.id), ("kind", .string node.kind)] ++ node.parameters)

/-- The JSON value of an edge. -/
def EdgeDocument.toJson (edge : EdgeDocument) : Json :=
  let label := match edge.label with
    | some label => [("label", Json.string label)]
    | none => []
  Json.ofMembers ([("source", .string edge.source), ("target", .string edge.target)] ++ label)

namespace FlowDocument

/-- The JSON value of a flow, given those of the flows embedded in it. -/
def membersToJson (id version : String) (nodes : List NodeDocument) (edges : List EdgeDocument)
    (subflows : List Json) : Json :=
  Json.ofMembers
    ([("id", .string id), ("version", .string version),
      ("nodes", .array (nodes.map NodeDocument.toJson)),
      ("edges", .array (edges.map EdgeDocument.toJson))] ++
      (if subflows.isEmpty then [] else [("subflows", .array subflows)]))

mutual

/-- The JSON value of a document. -/
def toJson : FlowDocument → Json
  | ⟨id, version, nodes, edges, subflows⟩ =>
    membersToJson id version nodes edges (toJsonAll subflows)

def toJsonAll : List FlowDocument → List Json
  | [] => []
  | document :: rest => toJson document :: toJsonAll rest

end

end FlowDocument

end DecisionFlow
