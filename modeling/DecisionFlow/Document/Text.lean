import DecisionFlow.Document.Reader

/-!
# Reading documents from text

A document in JSON text is first reduced to the members that have a meaning, while repetitions of
them are refused, and then read like any other JSON value.
-/

set_option autoImplicit false

namespace DecisionFlow

namespace Json.Written

/-- No name in the list occurs twice. -/
def distinct (names : List String) : Bool :=
  (firstRepeated names).isNone

/-- The values of the members with one of the given names. -/
def knownMembers? (names : List String) (room : Nat) :
    List (Option String × Written) → Option (List (String × Json))
  | [] => some []
  | (key, value) :: rest => do
    let key ← key
    if names.contains key then
      let value ← value.toJson? room
      let members ← knownMembers? names room rest
      return (key, value) :: members
    else knownMembers? names room rest

/-- An object of which only the members with the given names count, and at most once each. -/
def fieldsToJson? (names : List String) (room : Nat) (value : Written) : Option Json :=
  match value, room with
  | .object members, room + 1 => do
    let members ← knownMembers? names room members
    if distinct (members.map Prod.fst) then return Json.ofMembers members else none
  | value, room => value.toJson? room

/-- A node: every member counts, but its id and kind are given at most once. -/
def nodeToJson? (room : Nat) (value : Written) : Option Json :=
  match value, room with
  | .object members, room + 1 => do
    let members ← membersToJson? room members
    let fields := (members.map Prod.fst).filter nodeFields.contains
    if distinct fields then return Json.ofMembers members else none
  | value, room => value.toJson? room

/-- An array whose items are reduced in some way. -/
def arrayToJson? (item : Nat → Written → Option Json) (room : Nat) (value : Written) :
    Option Json :=
  match value, room with
  | .array items, room + 1 => do return .array (← items.mapM (item room))
  | value, room => value.toJson? room

/-- A field of a flow, other than its embedded flows, by its name or position. -/
def flowFieldToJson? (name : String) (room : Nat) (value : Written) : Option Json :=
  if name = "nodes" then arrayToJson? nodeToJson? room value
  else if name = "edges" then
    arrayToJson? (fieldsToJson? ["source", "target", "label"]) room value
  else value.toJson? room

/-- The fields of a flow, in the order of its array form. -/
def flowFields : List String := ["id", "version", "nodes", "edges", "subflows"]

mutual

/-- A flow, reduced to the members that have a meaning. -/
def flowToJson? (room : Nat) : Written → Option Json
  | .object members =>
    match room with
    | 0 => none
    | room + 1 => do
      let members ← flowMembers? room members
      if distinct (members.map Prod.fst) then return Json.ofMembers members else none
  | .array items =>
    match room with
    | 0 => none
    | room + 1 => do return .array (← flowItems? room flowFields items)
  | .null => some .null
  | .bool value => some (.bool value)
  | .number value => value.toJson?
  | .string value => value.map .string

/-- The members of a flow in object form. -/
def flowMembers? (room : Nat) :
    List (Option String × Written) → Option (List (String × Json))
  | [] => some []
  | (key, value) :: rest => do
    let key ← key
    if key = "subflows" then
      let value ← flowsToJson? room value
      let members ← flowMembers? room rest
      return (key, value) :: members
    else if flowFields.contains key then
      let value ← flowFieldToJson? key room value
      let members ← flowMembers? room rest
      return (key, value) :: members
    else flowMembers? room rest

/-- The items of a flow in array form, given the names of the fields they stand for. -/
def flowItems? (room : Nat) (names : List String) : List Written → Option (List Json)
  | [] => some []
  | item :: rest => do
    let name := names.headD ""
    let value ←
      if name = "subflows" then flowsToJson? room item else flowFieldToJson? name room item
    let values ← flowItems? room names.tail rest
    return value :: values

/-- An array of flows. -/
def flowsToJson? (room : Nat) : Written → Option Json
  | .array items =>
    match room with
    | 0 => none
    | room + 1 => do return .array (← flowList? room items)
  | .object members =>
    match room with
    | 0 => none
    | room + 1 => (membersToJson? room members).map Json.ofMembers
  | .null => some .null
  | .bool value => some (.bool value)
  | .number value => value.toJson?
  | .string value => value.map .string

/-- Flows, one after the other. -/
def flowList? (room : Nat) : List Written → Option (List Json)
  | [] => some []
  | item :: rest => do
    let value ← flowToJson? room item
    let values ← flowList? room rest
    return value :: values

end

end Json.Written

namespace FlowDocument

/-- The document written in a JSON text. All faults of a text count as one. -/
def ofText? (text : String) : Option FlowDocument := do
  let written ← Json.Written.ofText? text
  let json ← written.flowToJson? Json.maximalNesting
  (ofJson json).toOption

end FlowDocument

end DecisionFlow
