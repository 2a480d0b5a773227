import DecisionFlow.Document.Text
import DecisionFlow.Document.Writer
import DecisionFlow.Proofs.Entries
import DecisionFlow.Proofs.Outcome

/-!
# Documents written and read again

Writing a document and reading it again gives the document back, if the parameters of its nodes are
in key order and none of them is called `id` or `kind`, which would take the place of the node's own
ones (`FlowDocument.Plain`, `FlowDocument.ofJson_toJson`).

Every document that has been read is of this kind. A JSON value holds the members of its objects in
key order (`Json.Ordered`), also if it was made from a text that lists them otherwise or repeats some
of them (`Json.Written.ordered_flowToJson?`); and a reader of nodes sets `id` and `kind` apart. So a
document is read from the value that is written for it, whatever it was read from in the first place
(`FlowDocument.reads_back`): writing neither forgets anything nor adds to it, although there are
several ways to write the same document.
-/

set_option autoImplicit false

namespace DecisionFlow

/-! ## Arrays -/

theorem readItems_map {α : Type} {read : Json → Except ShapeError α} {write : α → Json}
    {values : List α} (back : ∀ value ∈ values, read (write value) = .ok value) :
    readItems read (values.map write) = .ok values := by
  induction values with
  | nil => rfl
  | cons value rest ih =>
      obtain ⟨first, others⟩ := List.forall_mem_cons.1 back
      rw [List.map_cons, readItems, first, ih others]
      rfl

theorem exists_item_of_readItems {α : Type} {read : Json → Except ShapeError α}
    {items : List Json} {values : List α} (isRead : readItems read items = .ok values) {value : α}
    (member : value ∈ values) : ∃ item ∈ items, read item = .ok value := by
  induction items generalizing values with
  | nil =>
      cases isRead
      cases member
  | cons item rest ih =>
      obtain ⟨first, readFirst, isRead⟩ := bind_eq_ok_iff.1 isRead
      obtain ⟨others, readOthers, isRead⟩ := bind_eq_ok_iff.1 isRead
      cases isRead
      rcases List.mem_cons.1 member with rfl | later
      · exact ⟨item, List.mem_cons_self, readFirst⟩
      · obtain ⟨other, isItem, isOther⟩ := ih readOthers later
        exact ⟨other, List.mem_cons_of_mem _ isItem, isOther⟩

theorem exists_items_of_readArray {α : Type} {read : Json → Except ShapeError α} {json : Json}
    {values : List α} (isRead : readArray read json = .ok values) :
    ∃ items, json = .array items ∧ readItems read items = .ok values := by
  cases json with
  | array items => exact ⟨items, rfl, isRead⟩
  | _ => cases isRead

/-! ## Writing and reading again -/

/-- The parameters are in order and none takes the place of the id or the kind. -/
structure NodeDocument.Plain (node : NodeDocument) : Prop where
  increasing : Entries.Increasing node.parameters
  apart : ∀ name ∈ nodeFields, name ∉ node.parameters.map Prod.fst

theorem NodeDocument.ofJson_toJson {node : NodeDocument} (plain : node.Plain) :
    ofJson node.toJson = .ok node := by
  obtain ⟨fields, isFields⟩ : ∃ fields : Entries Json,
    fields = [("id", .string node.id), ("kind", .string node.kind)] := ⟨_, rfl⟩
  have named : ∀ field ∈ fields, field.1 ∈ nodeFields := by simp [isFields, nodeFields]
  have parameters := Entries.filter_ofList_append named plain.apart plain.increasing
  have found {name : String} (isField : name ∈ nodeFields) :
      Entries.find? (Entries.ofList (fields ++ node.parameters)) name =
        Entries.find? fields.reverse name :=
    Entries.find?_ofList_append (plain.apart name isField)
  rw [toJson, Json.ofMembers, ← isFields, ofJson, found (by simp [nodeFields]),
    found (by simp [nodeFields]), parameters, isFields]
  rfl

theorem EdgeDocument.ofJson_toJson (edge : EdgeDocument) : ofJson edge.toJson = .ok edge := by
  obtain ⟨source, target, _ | label⟩ := edge
  · simp only [toJson, Json.ofMembers, ofJson, Entries.find?_ofList]
    rfl
  · simp only [toJson, Json.ofMembers, ofJson, Entries.find?_ofList]
    rfl

/-- The nodes of a flow and of all flows embedded in it are plain. -/
inductive FlowDocument.Plain : FlowDocument → Prop where
  | intro {document : FlowDocument} (nodes : ∀ node ∈ document.nodes, node.Plain)
      (subflows : ∀ subflow ∈ document.subflows, Plain subflow) : Plain document

namespace FlowDocument

theorem toJsonAll_eq_map (documents : List FlowDocument) :
    toJsonAll documents = documents.map toJson := by
  induction documents with
  | nil => rfl
  | cons document rest ih => rw [toJsonAll, ih, List.map_cons]

theorem ofAll_eq_readItems (items : List Json) : ofAll items = readItems ofJson items := by
  induction items with
  | nil => rfl
  | cons item rest ih => rw [ofAll, ih, readItems]

theorem embeddedIn_eq (members : List (String × Json)) :
    embeddedIn members = (Entries.find? members "subflows").map ofArray := by
  induction members with
  | nil => rfl
  | cons member rest ih =>
      obtain ⟨key, value⟩ := member
      rw [embeddedIn, Entries.find?_cons]
      by_cases same : key = "subflows" <;> simp [same, ih]

theorem embeddedAt_eq (position : Nat) (items : List Json) :
    embeddedAt position items = items[position]?.map ofArray := by
  induction items generalizing position with
  | nil => rfl
  | cons item rest ih =>
      cases position with
      | zero => rfl
      | succ position => rw [embeddedAt, ih, List.getElem?_cons_succ]

section

variable {id version : String} {nodes : List NodeDocument} {edges : List EdgeDocument}
  {subflows : List FlowDocument}

/-- A flow is read from an object if its members can be read. -/
theorem ofMembers_eq_ok {members : List (String × Json)} {embedded : Embedded}
    {nodeItems edgeItems : List Json} (isId : Entries.find? members "id" = some (.string id))
    (isVersion : Entries.find? members "version" = some (.string version))
    (isNodes : Entries.find? members "nodes" = some (.array nodeItems))
    (isEdges : Entries.find? members "edges" = some (.array edgeItems))
    (readNodes : readItems NodeDocument.ofJson nodeItems = .ok nodes)
    (readEdges : readItems EdgeDocument.ofJson edgeItems = .ok edges)
    (readSubflows : embedded.get = .ok subflows) :
    ofMembers members embedded = .ok ⟨id, version, nodes, edges, subflows⟩ := by
  rw [ofMembers, isId, isVersion, isNodes, isEdges, readSubflows]
  simp only [readOptional, readArray, readNodes, readEdges]
  rfl

theorem ofJson_membersToJson {items : List Json} (plain : ∀ node ∈ nodes, node.Plain)
    (embedded : readItems ofJson items = .ok subflows) :
    ofJson (membersToJson id version nodes edges items) =
      .ok ⟨id, version, nodes, edges, subflows⟩ := by
  obtain ⟨fields, isFields⟩ : ∃ fields : Entries Json, fields =
    [("id", .string id), ("version", .string version),
      ("nodes", .array (nodes.map NodeDocument.toJson)),
      ("edges", .array (edges.map EdgeDocument.toJson))] := ⟨_, rfl⟩
  obtain ⟨more, isMore⟩ : ∃ more : Entries Json, more =
    if items.isEmpty then [] else [("subflows", .array items)] := ⟨_, rfl⟩
  have found (name : String) (isField : name ≠ "subflows") :
      Entries.find? (Entries.ofList (fields ++ more)) name = Entries.find? fields.reverse name := by
    refine Entries.find?_ofList_append ?_
    rw [isMore]
    split <;> simp [isField]
  have readSubflows : (embeddedIn (Entries.ofList (fields ++ more))).get = .ok subflows := by
    -- Embedded flows are written only if there are any.
    rw [embeddedIn_eq, Entries.find?_ofList, isFields, isMore]
    cases items with
    | nil => exact embedded
    | cons item rest => exact (ofAll_eq_readItems _).trans embedded
  rw [membersToJson, Json.ofMembers, ← isFields, ← isMore, ofJson]
  subst isFields
  exact ofMembers_eq_ok (found "id" (by decide)) (found "version" (by decide))
    (found "nodes" (by decide)) (found "edges" (by decide))
    (readItems_map fun node member => NodeDocument.ofJson_toJson (plain node member))
    (readItems_map fun edge _ => edge.ofJson_toJson) readSubflows

end

/-- A plain document is read from the value that is written for it. -/
theorem ofJson_toJson {document : FlowDocument} (plain : document.Plain) :
    ofJson document.toJson = .ok document := by
  induction plain with
  | @intro document plain _ ih =>
      obtain ⟨id, version, nodes, edges, subflows⟩ := document
      rw [toJson, toJsonAll_eq_map]
      exact ofJson_membersToJson plain (readItems_map ih)

end FlowDocument

/-! ## What has been read -/

/-- All objects in the value hold their members in key order. -/
inductive Json.Ordered : Json → Prop where
  | null : Ordered .null
  | bool (value : Bool) : Ordered (.bool value)
  | int (value : Int) : Ordered (.int value)
  | float (value : Float) : Ordered (.float value)
  | string (value : String) : Ordered (.string value)
  | array {items : List Json} (all : ∀ item ∈ items, Ordered item) : Ordered (.array items)
  | object {members : List (String × Json)} (increasing : Entries.Increasing members)
      (all : ∀ member ∈ members, Ordered member.2) : Ordered (.object members)

theorem exists_of_readOptional {α β : Type} {read : α → Except ShapeError β} {given : Option α}
    {found : Option β} {value : β} (isRead : readOptional read given = .ok found)
    (isFound : found = some value) : ∃ source, given = some source ∧ read source = .ok value := by
  cases given with
  | none =>
      cases isRead
      cases isFound
  | some source =>
      subst isFound
      obtain ⟨_, readSource, ⟨⟩⟩ := map_eq_ok_iff.1 isRead
      exact ⟨source, rfl, readSource⟩

theorem requireField_eq_ok_iff {α : Type} {name : String} {given : Option α} {value : α} :
    requireField name given = .ok value ↔ given = some value := by
  cases given <;> simp [requireField]

theorem requireItem_eq_ok_iff {α : Type} {position : Nat} {expected : String} {given : Option α}
    {value : α} : requireItem position expected given = .ok value ↔ given = some value := by
  cases given <;> simp [requireItem]

/-- A node that has been read is plain. -/
theorem NodeDocument.plain_of_ofJson {json : Json} (ordered : json.Ordered) {node : NodeDocument}
    (isRead : ofJson json = .ok node) : node.Plain := by
  cases ordered with
  | object increasing all =>
      obtain ⟨_, -, isRead⟩ := bind_eq_ok_iff.1 isRead
      obtain ⟨_, -, isRead⟩ := bind_eq_ok_iff.1 isRead
      obtain ⟨_, -, isRead⟩ := bind_eq_ok_iff.1 isRead
      obtain ⟨_, -, isRead⟩ := bind_eq_ok_iff.1 isRead
      cases isRead
      refine ⟨increasing.filter _, fun name isField member => ?_⟩
      obtain ⟨parameter, isParameter, rfl⟩ := List.mem_map.1 member
      simpa [isField] using (List.mem_filter.1 isParameter).2
  | _ => cases isRead

namespace FlowDocument

variable {document : FlowDocument} {embedded : Embedded}

/-- Where the nodes of a flow in object form come from. -/
theorem exists_nodes_of_ofMembers {members : List (String × Json)}
    (isRead : ofMembers members embedded = .ok document) :
    (∃ json, Entries.find? members "nodes" = some json ∧
      readArray NodeDocument.ofJson json = .ok document.nodes) ∧
    embedded.get = .ok document.subflows := by
  obtain ⟨_, -, isRead⟩ := bind_eq_ok_iff.1 isRead
  obtain ⟨_, -, isRead⟩ := bind_eq_ok_iff.1 isRead
  obtain ⟨nodes, readNodes, isRead⟩ := bind_eq_ok_iff.1 isRead
  obtain ⟨subflows, readSubflows, isRead⟩ := bind_eq_ok_iff.1 isRead
  obtain ⟨_, -, isRead⟩ := bind_eq_ok_iff.1 isRead
  obtain ⟨_, -, isRead⟩ := bind_eq_ok_iff.1 isRead
  obtain ⟨_, -, isRead⟩ := bind_eq_ok_iff.1 isRead
  obtain ⟨_, given, isRead⟩ := bind_eq_ok_iff.1 isRead
  cases isRead
  exact ⟨exists_of_readOptional readNodes (requireField_eq_ok_iff.1 given), readSubflows⟩

/-- Where the nodes of a flow in array form come from. -/
theorem exists_nodes_of_ofItems {items : List Json}
    (isRead : ofItems items embedded = .ok document) :
    (∃ json, items[2]? = some json ∧
      readArray NodeDocument.ofJson json = .ok document.nodes) ∧
    embedded.get = .ok document.subflows := by
  obtain ⟨_, -, isRead⟩ := bind_eq_ok_iff.1 isRead
  obtain ⟨_, -, isRead⟩ := bind_eq_ok_iff.1 isRead
  obtain ⟨_, -, isRead⟩ := bind_eq_ok_iff.1 isRead
  obtain ⟨_, -, isRead⟩ := bind_eq_ok_iff.1 isRead
  obtain ⟨nodes, readNodes, isRead⟩ := bind_eq_ok_iff.1 isRead
  obtain ⟨_, given, isRead⟩ := bind_eq_ok_iff.1 isRead
  obtain ⟨_, -, isRead⟩ := bind_eq_ok_iff.1 isRead
  obtain ⟨subflows, readSubflows, isRead⟩ := bind_eq_ok_iff.1 isRead
  obtain ⟨_, -, isRead⟩ := bind_eq_ok_iff.1 isRead
  cases isRead
  exact ⟨exists_of_readOptional readNodes (requireItem_eq_ok_iff.1 given), readSubflows⟩

/-- Embedded flows come from somewhere. -/
theorem Embedded.exists_of_get {source : Option Json} {subflows : List FlowDocument}
    (isRead : Embedded.get (source.map ofArray) = .ok subflows) {subflow : FlowDocument}
    (member : subflow ∈ subflows) : ∃ json, source = some json ∧ ofArray json = .ok subflows := by
  cases source with
  | none =>
      cases isRead
      cases member
  | some json => exact ⟨json, rfl, isRead⟩

theorem plain_of_readArray {json : Json} (ordered : json.Ordered) {nodes : List NodeDocument}
    (isRead : readArray NodeDocument.ofJson json = .ok nodes) : ∀ node ∈ nodes, node.Plain := by
  intro node member
  obtain ⟨items, rfl, isRead⟩ := exists_items_of_readArray isRead
  obtain ⟨item, isItem, readItem⟩ := exists_item_of_readItems isRead member
  cases ordered with
  | array all => exact NodeDocument.plain_of_ofJson (all item isItem) readItem

/-- A document that has been read is plain, and so are all documents that are read from an array. -/
theorem plain_of_ordered {json : Json} (ordered : json.Ordered) :
    (∀ document, ofJson json = .ok document → document.Plain) ∧
      ∀ documents, ofArray json = .ok documents → ∀ document ∈ documents, document.Plain := by
  induction ordered with
  | @array items all ih =>
      constructor
      · intro document isRead
        obtain ⟨⟨json, isItem, readNodes⟩, readSubflows⟩ := exists_nodes_of_ofItems isRead
        refine .intro (plain_of_readArray (all json (List.mem_of_getElem? isItem)) readNodes) ?_
        intro subflow member
        rw [embeddedAt_eq] at readSubflows
        obtain ⟨json, isItem, isRead⟩ := Embedded.exists_of_get readSubflows member
        exact (ih json (List.mem_of_getElem? isItem)).2 _ isRead subflow member
      · intro documents isRead document member
        rw [ofArray, ofAll_eq_readItems] at isRead
        obtain ⟨item, isItem, readItem⟩ := exists_item_of_readItems isRead member
        exact (ih item isItem).1 document readItem
  | @object members _ all ih =>
      constructor
      · intro document isRead
        obtain ⟨⟨json, isMember, readNodes⟩, readSubflows⟩ := exists_nodes_of_ofMembers isRead
        refine .intro (plain_of_readArray (all _ (Entries.mem_of_find? isMember)) readNodes) ?_
        intro subflow member
        rw [embeddedIn_eq] at readSubflows
        obtain ⟨json, isMember, isRead⟩ := Embedded.exists_of_get readSubflows member
        exact (ih _ (Entries.mem_of_find? isMember)).2 _ isRead subflow member
      · rintro documents ⟨⟩
  | _ =>
      constructor
      · rintro document ⟨⟩
      · rintro documents ⟨⟩

end FlowDocument

/-! ## What has been read from text -/

namespace Json

theorem ordered_ofMembers {members : List (String × Json)}
    (all : ∀ member ∈ members, member.2.Ordered) : (ofMembers members).Ordered :=
  .object (Entries.increasing_ofList members) fun member isMember =>
    all member (Entries.mem_of_mem_ofList isMember)

theorem Numeral.ordered_toJson? {numeral : Numeral} {json : Json}
    (made : numeral.toJson? = some json) : json.Ordered := by
  unfold toJson? at made
  extract_lets coefficient signed isWhole isNegativeZero at made
  split at made
  · cases made
    exact .int _
  · obtain ⟨value, -, rfl⟩ := Option.map_eq_some_iff.1 made
    exact .float value

namespace Written

/-- Values that are made one after the other. -/
theorem forall_mem_of_cons? {α β : Type} {first : Option α} {others : Option (List β)}
    {listed : α → β} {fine : β → Prop} {values : List β}
    (made : (do
      let value ← first
      let values ← others
      return listed value :: values) = some values)
    (here : ∀ value, first = some value → fine (listed value))
    (later : ∀ values, others = some values → ∀ value ∈ values, fine value) :
    ∀ value ∈ values, fine value := by
  obtain ⟨value, isValue, made⟩ := Option.bind_eq_some_iff.1 made
  obtain ⟨values, isValues, made⟩ := Option.bind_eq_some_iff.1 made
  cases made
  exact List.forall_mem_cons.2 ⟨here value isValue, later values isValues⟩

mutual

/-- A value that is made from a text is ordered, whatever the order in which it is written. -/
theorem ordered_toJson? : ∀ (room : Nat) (written : Written) {json : Json},
    written.toJson? room = some json → json.Ordered
  | _, .null, _, made => by
    cases made
    exact .null
  | _, .bool value, _, made => by
    cases made
    exact .bool value
  | _, .number _, _, made => Numeral.ordered_toJson? made
  | _, .string _, _, made => by
    obtain ⟨text, -, rfl⟩ := Option.map_eq_some_iff.1 made
    exact .string text
  | room + 1, .array items, _, made => by
    obtain ⟨values, isValues, rfl⟩ := Option.map_eq_some_iff.1 made
    exact .array (ordered_itemsToJson? room items isValues)
  | room + 1, .object members, _, made => by
    obtain ⟨values, isValues, rfl⟩ := Option.map_eq_some_iff.1 made
    exact ordered_ofMembers (ordered_membersToJson? room members isValues)

theorem ordered_itemsToJson? : ∀ (room : Nat) (items : List Written) {values : List Json},
    itemsToJson? room items = some values → ∀ value ∈ values, value.Ordered
  | _, [], _, made => by
    cases made
    simp
  | room, item :: rest, _, made =>
    forall_mem_of_cons? made (fun _ => ordered_toJson? room item)
      fun _ => ordered_itemsToJson? room rest

theorem ordered_membersToJson? : ∀ (room : Nat) (members : List (Option String × Written))
    {values : List (String × Json)},
    membersToJson? room members = some values → ∀ value ∈ values, value.2.Ordered
  | _, [], _, made => by
    cases made
    simp
  | room, (_, member) :: rest, _, made => by
    obtain ⟨key, -, made⟩ := Option.bind_eq_some_iff.1 made
    exact forall_mem_of_cons? made (fun _ => ordered_toJson? room member)
      fun _ => ordered_membersToJson? room rest

end

theorem ordered_knownMembers? {names : List String} {room : Nat}
    {members : List (Option String × Written)} {values : List (String × Json)}
    (made : knownMembers? names room members = some values) :
    ∀ value ∈ values, value.2.Ordered := by
  induction members generalizing values with
  | nil =>
      cases made
      simp
  | cons member rest ih =>
      obtain ⟨key, -, made⟩ := Option.bind_eq_some_iff.1 made
      split at made
      · exact forall_mem_of_cons? made (fun _ => ordered_toJson? room member.2) fun _ => ih
      · exact ih made

theorem ordered_fieldsToJson? {names : List String} {room : Nat} {written : Written} {json : Json}
    (made : fieldsToJson? names room written = some json) : json.Ordered := by
  unfold fieldsToJson? at made
  split at made
  · obtain ⟨values, isValues, made⟩ := Option.bind_eq_some_iff.1 made
    split at made
    · cases made
      exact ordered_ofMembers (ordered_knownMembers? isValues)
    · cases made
  · exact ordered_toJson? _ _ made

theorem ordered_nodeToJson? {room : Nat} {written : Written} {json : Json}
    (made : nodeToJson? room written = some json) : json.Ordered := by
  unfold nodeToJson? at made
  split at made
  · obtain ⟨values, isValues, made⟩ := Option.bind_eq_some_iff.1 made
    dsimp only at made
    split at made
    · cases made
      exact ordered_ofMembers (ordered_membersToJson? _ _ isValues)
    · cases made
  · exact ordered_toJson? _ _ made

theorem ordered_mapM {make : Written → Option Json}
    (each : ∀ written json, make written = some json → json.Ordered) {items : List Written}
    {values : List Json} (made : items.mapM make = some values) :
    ∀ value ∈ values, value.Ordered := by
  induction items generalizing values with
  | nil =>
      cases made
      simp
  | cons item rest ih =>
      rw [List.mapM_cons] at made
      exact forall_mem_of_cons? made (each item) fun _ => ih

theorem ordered_arrayToJson? {item : Nat → Written → Option Json} {room : Nat} {written : Written}
    {json : Json} (each : ∀ room written json, item room written = some json → json.Ordered)
    (made : arrayToJson? item room written = some json) : json.Ordered := by
  unfold arrayToJson? at made
  split at made
  · obtain ⟨values, isValues, made⟩ := Option.bind_eq_some_iff.1 made
    cases made
    exact .array (ordered_mapM (each _) isValues)
  · exact ordered_toJson? _ _ made

theorem ordered_flowFieldToJson? {name : String} {room : Nat} {written : Written} {json : Json}
    (made : flowFieldToJson? name room written = some json) : json.Ordered := by
  unfold flowFieldToJson? at made
  split at made
  · exact ordered_arrayToJson? (fun _ _ _ => ordered_nodeToJson?) made
  · split at made
    · exact ordered_arrayToJson? (fun _ _ _ => ordered_fieldsToJson?) made
    · exact ordered_toJson? room written made

mutual

/-- What a text says about a flow is ordered. -/
theorem ordered_flowToJson? : ∀ (room : Nat) (written : Written) {json : Json},
    written.flowToJson? room = some json → json.Ordered
  | _, .null, _, made => by
    cases made
    exact .null
  | _, .bool value, _, made => by
    cases made
    exact .bool value
  | _, .number _, _, made => Numeral.ordered_toJson? made
  | _, .string _, _, made => by
    obtain ⟨text, -, rfl⟩ := Option.map_eq_some_iff.1 made
    exact .string text
  | room + 1, .array items, _, made => by
    obtain ⟨values, isValues, made⟩ := Option.bind_eq_some_iff.1 made
    cases made
    exact .array (ordered_flowItems? room flowFields items isValues)
  | room + 1, .object members, _, made => by
    obtain ⟨values, isValues, made⟩ := Option.bind_eq_some_iff.1 made
    split at made
    · cases made
      exact ordered_ofMembers (ordered_flowMembers? room members isValues)
    · cases made

theorem ordered_flowMembers? : ∀ (room : Nat) (members : List (Option String × Written))
    {values : List (String × Json)},
    flowMembers? room members = some values → ∀ value ∈ values, value.2.Ordered
  | _, [], _, made => by
    cases made
    simp
  | room, (_, member) :: rest, _, made => by
    obtain ⟨key, -, made⟩ := Option.bind_eq_some_iff.1 made
    split at made
    · exact forall_mem_of_cons? made (fun _ => ordered_flowsToJson? room member)
        fun _ => ordered_flowMembers? room rest
    · split at made
      · exact forall_mem_of_cons? made (fun _ => ordered_flowFieldToJson?)
          fun _ => ordered_flowMembers? room rest
      · exact ordered_flowMembers? room rest made

theorem ordered_flowItems? : ∀ (room : Nat) (names : List String) (items : List Written)
    {values : List Json}, flowItems? room names items = some values → ∀ value ∈ values, value.Ordered
  | _, _, [], _, made => by
    cases made
    simp
  | room, names, item :: rest, _, made => by
    rw [flowItems?] at made
    dsimp only at made
    split at made
    · exact forall_mem_of_cons? made (fun _ => ordered_flowsToJson? room item)
        fun _ => ordered_flowItems? room names.tail rest
    · exact forall_mem_of_cons? made (fun _ => ordered_flowFieldToJson?)
        fun _ => ordered_flowItems? room names.tail rest

theorem ordered_flowsToJson? : ∀ (room : Nat) (written : Written) {json : Json},
    written.flowsToJson? room = some json → json.Ordered
  | _, .null, _, made => by
    cases made
    exact .null
  | _, .bool value, _, made => by
    cases made
    exact .bool value
  | _, .number _, _, made => Numeral.ordered_toJson? made
  | _, .string _, _, made => by
    obtain ⟨text, -, rfl⟩ := Option.map_eq_some_iff.1 made
    exact .string text
  | room + 1, .array items, _, made => by
    obtain ⟨values, isValues, made⟩ := Option.bind_eq_some_iff.1 made
    cases made
    exact .array (ordered_flowList? room items isValues)
  | room + 1, .object members, _, made => by
    obtain ⟨values, isValues, rfl⟩ := Option.map_eq_some_iff.1 made
    exact ordered_ofMembers (ordered_membersToJson? room members isValues)

theorem ordered_flowList? : ∀ (room : Nat) (items : List Written) {values : List Json},
    flowList? room items = some values → ∀ value ∈ values, value.Ordered
  | _, [], _, made => by
    cases made
    simp
  | room, item :: rest, _, made =>
    forall_mem_of_cons? made (fun _ => ordered_flowToJson? room item)
      fun _ => ordered_flowList? room rest

end

end Written

end Json

namespace FlowDocument

/-- A document in a text is read from a value whose objects are in order. -/
theorem exists_ordered_of_ofText? {text : String} {document : FlowDocument}
    (isRead : ofText? text = some document) :
    ∃ json, json.Ordered ∧ ofJson json = .ok document := by
  obtain ⟨written, -, isRead⟩ := Option.bind_eq_some_iff.1 isRead
  obtain ⟨json, made, isRead⟩ := Option.bind_eq_some_iff.1 isRead
  exact ⟨json, Json.Written.ordered_flowToJson? _ written made, toOption_eq_some_iff.1 isRead⟩

/-- **Documents are read back.** A document that has been read, be it from a JSON value or straight
from a text, is read again from the value that is written for it, however its version, its flows,
its edges and their labels were spelled, whatever parameters its nodes have, and at whatever depth
flows are embedded in it. -/
theorem reads_back (document : FlowDocument) :
    (∀ json : Json, json.Ordered → ofJson json = .ok document →
      ofJson document.toJson = .ok document) ∧
    ∀ text, ofText? text = some document → ofJson document.toJson = .ok document := by
  have back {json : Json} (ordered : json.Ordered) (isRead : ofJson json = .ok document) :
      ofJson document.toJson = .ok document :=
    ofJson_toJson ((plain_of_ordered ordered).1 document isRead)
  refine ⟨fun json => back, fun text isRead => ?_⟩
  obtain ⟨json, ordered, isRead⟩ := exists_ordered_of_ofText? isRead
  exact back ordered isRead

/-- A flow whose version is a number, whose edge is an array and whose embedded flow is one, too. -/
def looselySpelled : Json :=
  Json.ofMembers [("version", .int 2), ("id", .string "main"),
    ("nodes", .array [Json.ofMembers [("kind", .string "start"), ("id", .string "start")],
      Json.ofMembers [("remark", .null), ("output", .int 1), ("id", .string "end"),
        ("kind", .string "output")]]),
    ("edges", .array [.array [.string "start", .string "end", .null]]),
    ("subflows", .array [.array [.string "aid", .string "1", .array []]])]

/-- The flow as it is read. -/
def looselySpelledFlow : FlowDocument where
  id := "main"
  version := "2"
  nodes := [⟨"start", "start", []⟩, ⟨"end", "output", [("output", .int 1), ("remark", .null)]⟩]
  edges := [⟨"start", "end", none⟩]
  subflows := [⟨"aid", "1", [], [], []⟩]

theorem ordered_looselySpelled : looselySpelled.Ordered := by
  refine Json.ordered_ofMembers ?_
  simp only [List.forall_mem_cons, List.not_mem_nil, false_implies, implies_true, and_true]
  refine ⟨.int 2, .string _, .array ?_, .array ?_, .array ?_⟩
  · simp only [List.forall_mem_cons, List.not_mem_nil, false_implies, implies_true, and_true]
    constructor <;> refine Json.ordered_ofMembers ?_ <;>
      simp [Json.Ordered.null, Json.Ordered.int, Json.Ordered.string]
  · simp [Json.Ordered.array, Json.Ordered.null, Json.Ordered.string]
  · simp [Json.Ordered.array, Json.Ordered.string]

/-- The text of a flow in array form, with a flow embedded in it. -/
def arrayText : String := "[\"main\", 2, [], [], [[\"aid\", \"1\", []]]]"

/-- Neither the spelling of a flow nor that it comes from a text makes a difference. -/
theorem reads_back_of_looselySpelled :
    (ofJson looselySpelled = .ok looselySpelledFlow ∧
      ofJson looselySpelledFlow.toJson = .ok looselySpelledFlow) ∧
    ∃ document, ofText? arrayText = some document ∧ document.key = "main@2" ∧
      document.subflows.map key = ["aid@1"] ∧ ofJson document.toJson = .ok document := by
  have isRead : ofJson looselySpelled = .ok looselySpelledFlow := by with_unfolding_all rfl
  have keys : (ofText? arrayText).map (fun document => (document.key, document.subflows.map key)) =
      some ("main@2", ["aid@1"]) := by decide +kernel
  obtain ⟨document, isReadFromText, keys⟩ := Option.map_eq_some_iff.1 keys
  obtain ⟨isKey, areKeys⟩ := Prod.mk.inj keys
  exact ⟨⟨isRead, (reads_back _).1 _ ordered_looselySpelled isRead⟩, document, isReadFromText, isKey,
    areKeys, (reads_back _).2 _ isReadFromText⟩

end FlowDocument

end DecisionFlow
