/-!
# Entries in key order

Objects, records and results are finite maps from names to values. They are held as lists of
entries in strictly increasing key order, so that equal maps are equal lists and the order of
listing them is fixed. Writing an entry a second time replaces the first value.
-/

set_option autoImplicit false

namespace DecisionFlow

/-- A finite map from names, as entries in increasing key order. -/
abbrev Entries (α : Type) := List (String × α)

namespace Entries

variable {α : Type}

/-- Writes one entry, replacing the value that its key had. -/
def insert (key : String) (value : α) : Entries α → Entries α
  | [] => [(key, value)]
  | (other, old) :: rest =>
    if key < other then (key, value) :: (other, old) :: rest
    else if key = other then (key, value) :: rest
    else (other, old) :: insert key value rest

/-- Writes the listed entries one after the other, so that the last value of a key stays. -/
def ofList (pairs : List (String × α)) : Entries α :=
  pairs.foldl (fun entries pair => insert pair.1 pair.2 entries) []

/-- The value written under a key. -/
def find? (entries : Entries α) (key : String) : Option α :=
  (List.find? (fun entry => entry.1 == key) entries).map Prod.snd

/-- Some value is written under the key. -/
def contains (entries : Entries α) (key : String) : Bool :=
  (entries.find? key).isSome

/-! ## Reading what was written -/

@[simp]
theorem find?_nil (key : String) : find? ([] : Entries α) key = none := rfl

/-- The first entry decides what a key has, if it is the key's own. -/
theorem find?_cons (name : String) (value : α) (entries : Entries α) (key : String) :
    find? ((name, value) :: entries) key =
      if name = key then some value else find? entries key := by
  by_cases same : name = key <;> simp [find?, same]

/-- A value that is found is one of an entry. -/
theorem mem_of_find? {entries : Entries α} {key : String} {value : α}
    (found : find? entries key = some value) : (key, value) ∈ entries := by
  obtain ⟨entry, isEntry, rfl⟩ := Option.map_eq_some_iff.1 found
  obtain rfl : entry.1 = key := by simpa using List.find?_some isEntry
  exact List.mem_of_find?_eq_some isEntry

/-- Of two lists of entries the first one decides what a key has. -/
theorem find?_append (first second : Entries α) (key : String) :
    find? (first ++ second) key = (find? first key).or (find? second key) := by
  simp [find?, List.find?_append, Option.map_or]

/-- The keys are those under which a value is found. -/
theorem mem_keys_iff {entries : Entries α} {key : String} :
    key ∈ entries.map Prod.fst ↔ (find? entries key).isSome = true := by
  simp [find?]

/-- A key has the value that was written last. -/
@[simp]
theorem find?_insert_self (key : String) (value : α) (entries : Entries α) :
    find? (insert key value entries) key = some value := by
  induction entries with
  | nil => simp [insert, find?_cons]
  | cons entry rest ih =>
      obtain ⟨other, old⟩ := entry
      by_cases before : key < other
      · simp [insert, before, find?_cons]
      · by_cases same : key = other
        · simp [insert, same, find?_cons]
        · simp [insert, before, same, find?_cons, Ne.symm same, ih]

/-- Writing an entry leaves the other keys as they were. -/
theorem find?_insert_of_ne {key name : String} (different : name ≠ key) (value : α)
    (entries : Entries α) : find? (insert key value entries) name = find? entries name := by
  induction entries with
  | nil => simp [insert, find?_cons, Ne.symm different]
  | cons entry rest ih =>
      obtain ⟨other, old⟩ := entry
      by_cases before : key < other
      · simp [insert, before, find?_cons, Ne.symm different]
      · by_cases same : key = other
        · subst same
          simp [insert, find?_cons, Ne.symm different]
        · simp [insert, before, same, find?_cons, ih]

/-- After several entries are written, the last one under a key decides, and the earlier value
remains where there is none. -/
theorem find?_foldl_insert (pairs : List (String × α)) (entries : Entries α) (key : String) :
    find? (pairs.foldl (fun entries pair => insert pair.1 pair.2 entries) entries) key =
      (find? pairs.reverse key).or (find? entries key) := by
  induction pairs generalizing entries with
  | nil => rfl
  | cons pair rest ih =>
      obtain ⟨name, value⟩ := pair
      rw [List.foldl_cons, ih, List.reverse_cons, find?_append, Option.or_assoc, find?_cons]
      congr 1
      by_cases same : name = key
      · simp [same]
      · simp [same, find?_insert_of_ne (Ne.symm same)]

/-- Of several listed values of a key the last is kept. -/
theorem find?_ofList (pairs : List (String × α)) (key : String) :
    find? (ofList pairs) key = find? pairs.reverse key := by
  simp [ofList, find?_foldl_insert]

/-! ## Order -/

/-- The keys are strictly increasing. -/
def Increasing (entries : Entries α) : Prop :=
  entries.Pairwise fun entry later => entry.1 < later.1

/-- Writing an entry adds no key but its own. -/
theorem mem_insert {key : String} {value : α} {entries : Entries α} {entry : String × α}
    (member : entry ∈ insert key value entries) : entry = (key, value) ∨ entry ∈ entries := by
  induction entries with
  | nil => simpa [insert] using member
  | cons head rest ih =>
      obtain ⟨other, old⟩ := head
      by_cases before : key < other
      · simpa [insert, before] using member
      · by_cases same : key = other
        · rcases List.mem_cons.1 (by simpa [insert, same] using member) with here | later
          · exact .inl (by simpa [same] using here)
          · exact .inr (List.mem_cons_of_mem _ later)
        · rcases List.mem_cons.1 (by simpa [insert, before, same] using member) with here | later
          · exact .inr (by simp [here])
          · exact (ih later).imp_right (List.mem_cons_of_mem _)

/-- Writing an entry keeps the order. -/
theorem increasing_insert {entries : Entries α} (increasing : Increasing entries) (key : String)
    (value : α) : Increasing (insert key value entries) := by
  induction entries with
  | nil => simp [insert, Increasing]
  | cons head rest ih =>
      obtain ⟨other, old⟩ := head
      obtain ⟨above, ordered⟩ := List.pairwise_cons.1 increasing
      by_cases before : key < other
      · rw [insert, if_pos before]
        refine List.pairwise_cons.2 ⟨fun entry member => ?_, increasing⟩
        rcases List.mem_cons.1 member with here | later
        · exact here ▸ before
        · exact String.lt_trans before (above entry later)
      · by_cases same : key = other
        · rw [insert, if_neg before, if_pos same]
          exact List.pairwise_cons.2 ⟨fun entry member => same ▸ above entry member, ordered⟩
        · rw [insert, if_neg before, if_neg same]
          refine List.pairwise_cons.2 ⟨fun entry member => ?_, ih ordered⟩
          rcases mem_insert member with here | later
          · subst here
            exact Decidable.byContradiction fun notLess =>
              same (String.le_antisymm (String.not_lt.1 notLess) (String.not_lt.1 before))
          · exact above entry later

/-- Entries written one after the other are in order. -/
theorem increasing_ofList (pairs : List (String × α)) : Increasing (ofList pairs) := by
  suffices general : ∀ entries : Entries α, Increasing entries →
      Increasing (pairs.foldl (fun entries pair => insert pair.1 pair.2 entries) entries) from
    general [] List.Pairwise.nil
  induction pairs with
  | nil => exact fun _ increasing => increasing
  | cons pair rest ih => exact fun entries increasing => ih _ (increasing_insert increasing _ _)

/-- An entry above all others is written last. -/
theorem insert_of_above {entries : Entries α} {key : String} (value : α)
    (above : ∀ entry ∈ entries, entry.1 < key) :
    insert key value entries = entries ++ [(key, value)] := by
  induction entries with
  | nil => rfl
  | cons head rest ih =>
      obtain ⟨other, old⟩ := head
      obtain ⟨here, later⟩ := List.forall_mem_cons.1 above
      rw [insert, if_neg (String.lt_asymm here), if_neg (String.ne_of_lt here).symm,
        ih later, List.cons_append]

/-- Entries that are in order are held as they are listed. -/
theorem ofList_of_increasing {entries : Entries α} (increasing : Increasing entries) :
    ofList entries = entries := by
  suffices general : ∀ earlier : Entries α, Increasing (earlier ++ entries) →
      entries.foldl (fun entries pair => insert pair.1 pair.2 entries) earlier =
        earlier ++ entries from
    general [] increasing
  clear increasing
  induction entries with
  | nil => simp
  | cons entry rest ih =>
      intro earlier increasing
      have above : ∀ other ∈ earlier, other.1 < entry.1 := fun other isEarlier =>
        (List.pairwise_append.1 increasing).2.2 other isEarlier entry List.mem_cons_self
      rw [List.foldl_cons, insert_of_above entry.2 above, ih _ (by simpa using increasing),
        List.append_assoc, List.singleton_append]

/-! ## Lists of entries -/

/-- A key is written if some listed entry has it. -/
theorem mem_keys_ofList {pairs : List (String × α)} {key : String} :
    key ∈ (ofList pairs).map Prod.fst ↔ key ∈ pairs.map Prod.fst := by
  rw [mem_keys_iff, find?_ofList, ← mem_keys_iff, List.map_reverse, List.mem_reverse]

theorem ofList_ne_nil {pairs : List (String × α)} (present : pairs ≠ []) : ofList pairs ≠ [] := by
  obtain ⟨pair, rest, rfl⟩ := List.exists_cons_of_ne_nil present
  intro empty
  have member : pair.1 ∈ (ofList (pair :: rest)).map Prod.fst := mem_keys_ofList.2 (by simp)
  simp [empty] at member

/-- Only listed entries are held. -/
theorem mem_of_mem_ofList {pairs : List (String × α)} {entry : String × α}
    (member : entry ∈ ofList pairs) : entry ∈ pairs := by
  suffices general : ∀ entries : Entries α,
      entry ∈ pairs.foldl (fun entries pair => insert pair.1 pair.2 entries) entries →
        entry ∈ pairs ∨ entry ∈ entries from
    (general [] member).resolve_right List.not_mem_nil
  clear member
  induction pairs with
  | nil => exact fun _ member => .inr member
  | cons pair rest ih =>
      intro entries member
      rcases ih _ member with later | earlier
      · exact .inl (List.mem_cons_of_mem _ later)
      · rcases mem_insert earlier with rfl | old
        · exact .inl List.mem_cons_self
        · exact .inr old

theorem insert_map {β : Type} (change : α → β) (key : String) (value : α) (entries : Entries α) :
    insert key (change value) (entries.map fun entry => (entry.1, change entry.2)) =
      (insert key value entries).map fun entry => (entry.1, change entry.2) := by
  induction entries with
  | nil => rfl
  | cons entry rest ih =>
      obtain ⟨other, old⟩ := entry
      by_cases before : key < other
      · simp [insert, before]
      · by_cases same : key = other
        · simp [insert, same]
        · simp [insert, before, same, ih]

/-- Values can be changed before or after their entries are written. -/
theorem ofList_map {β : Type} (change : α → β) (pairs : List (String × α)) :
    ofList (pairs.map fun entry => (entry.1, change entry.2)) =
      (ofList pairs).map fun entry => (entry.1, change entry.2) := by
  suffices general : ∀ entries : Entries α,
      (pairs.map fun entry => (entry.1, change entry.2)).foldl
          (fun entries pair => insert pair.1 pair.2 entries)
          (entries.map fun entry => (entry.1, change entry.2)) =
        (pairs.foldl (fun entries pair => insert pair.1 pair.2 entries) entries).map
          fun entry => (entry.1, change entry.2) from
    general []
  induction pairs with
  | nil => exact fun _ => rfl
  | cons pair rest ih =>
      intro entries
      simp only [List.map_cons, List.foldl_cons, insert_map, ih]

end Entries

end DecisionFlow
