import DecisionFlow.Entries

/-!
# Lists of names

Names of nodes, columns and fields occur in lists with repetitions. Here are the two questions
asked of such lists: which names occur, in increasing order, and which name is repeated first.
-/

set_option autoImplicit false

namespace DecisionFlow

/-- The names that occur in a list, each once, in increasing order. -/
def sortedNames (names : List String) : List String :=
  (Entries.ofList (names.map fun name => (name, ()))).map Prod.fst

/-- A name is listed exactly if it occurs. -/
theorem mem_sortedNames {name : String} {names : List String} :
    name ∈ sortedNames names ↔ name ∈ names := by
  simp only [sortedNames, Entries.mem_keys_iff, Entries.find?_ofList]
  rw [← Entries.mem_keys_iff]
  simp

/-- The first name that already occurred before it, where `seen` lists the earlier names. -/
def firstRepeatedAfter (seen : List String) : List String → Option String
  | [] => none
  | name :: rest =>
    if name ∈ seen then some name else firstRepeatedAfter (name :: seen) rest

theorem firstRepeatedAfter_eq_none_iff {seen names : List String} :
    firstRepeatedAfter seen names = none ↔ names.Nodup ∧ ∀ name ∈ names, name ∉ seen := by
  induction names generalizing seen with
  | nil => simp [firstRepeatedAfter]
  | cons name rest ih =>
      by_cases repeated : name ∈ seen
      · simp [firstRepeatedAfter, repeated]
      · simp only [firstRepeatedAfter, repeated, ↓reduceIte, ih, List.nodup_cons, List.mem_cons,
          not_or, forall_eq_or_imp, not_false_eq_true, true_and]
        constructor
        · rintro ⟨distinct, fresh⟩
          exact ⟨⟨fun member => (fresh name member).1 rfl, distinct⟩,
            fun other member => (fresh other member).2⟩
        · rintro ⟨⟨notLater, distinct⟩, fresh⟩
          exact ⟨distinct, fun other member =>
            ⟨fun same => notLater (same ▸ member), fresh other member⟩⟩

/-- The first name of a list that already occurred before it. -/
def firstRepeated (names : List String) : Option String :=
  firstRepeatedAfter [] names

/-- Names without a repeated one are pairwise distinct. -/
theorem firstRepeated_eq_none_iff {names : List String} :
    firstRepeated names = none ↔ names.Nodup := by
  simp [firstRepeated, firstRepeatedAfter_eq_none_iff]

end DecisionFlow
