import Mathlib.Data.List.Forall2
import Mathlib.Data.List.Nodup
import Mathlib.Order.Bounds.Basic

/-!
# Places in lists

Nodes, columns and rows are addressed by their places in lists, and lists are read item by item into
other lists that are in step with them. Here is what is needed about both.
-/

set_option autoImplicit false

namespace DecisionFlow

variable {α β : Type}

/-! ## Places -/

section

variable {items : List α} {item : α} {place other : Nat}

/-- In a list of different items each has one place. -/
theorem place_unique (distinct : items.Nodup) (here : items[place]? = some item)
    (there : items[other]? = some item) : place = other := by
  obtain ⟨inside, rfl⟩ := List.getElem?_eq_some_iff.1 here
  obtain ⟨otherInside, same⟩ := List.getElem?_eq_some_iff.1 there
  exact (distinct.getElem_inj_iff.1 same).symm

/-- What comes later in a list of different items has the greater place. -/
theorem idxOf_lt_of_sublist [DecidableEq α] {earlier later : α} (distinct : items.Nodup)
    (ordered : [earlier, later].Sublist items) : items.idxOf earlier < items.idxOf later := by
  induction items with
  | nil => cases ordered
  | cons head rest ih =>
      obtain ⟨fresh, distinct⟩ := List.nodup_cons.1 distinct
      cases ordered with
      | cons _ within =>
          have different : ∀ name ∈ [earlier, later], head ≠ name := by
            rintro name member rfl
            exact fresh (within.subset member)
          rw [List.idxOf_cons_ne _ (different earlier (by simp)),
            List.idxOf_cons_ne _ (different later (by simp))]
          exact Nat.succ_lt_succ (ih distinct within)
      | cons_cons _ within =>
          have different : earlier ≠ later := by
            rintro rfl
            exact fresh (within.subset List.mem_cons_self)
          rw [List.idxOf_cons_self, List.idxOf_cons_ne _ different]
          exact Nat.succ_pos _

/-- The first item with a property is found, and its place is the least one. -/
theorem findIdx?_eq_some_iff_isLeast {holds : α → Bool} :
    items.findIdx? holds = some place ↔
      IsLeast {place | ∃ item, items[place]? = some item ∧ holds item = true} place := by
  rw [List.findIdx?_eq_some_iff_getElem]
  constructor
  · rintro ⟨inside, here, before⟩
    refine ⟨⟨_, List.getElem?_eq_getElem inside, here⟩, ?_⟩
    rintro other ⟨item, found, isItem⟩
    obtain ⟨_, rfl⟩ := List.getElem?_eq_some_iff.1 found
    exact Nat.not_lt.1 fun earlier => before other earlier isItem
  · rintro ⟨⟨item, found, here⟩, least⟩
    obtain ⟨inside, rfl⟩ := List.getElem?_eq_some_iff.1 found
    refine ⟨inside, here, fun other earlier isItem => ?_⟩
    have notEarlier := least ⟨_, List.getElem?_eq_getElem (earlier.trans inside), isItem⟩
    exact absurd earlier (Nat.not_lt.2 notEarlier)

end

/-! ## Entries -/

/-- What all entries under a key have is found under it. -/
theorem lookup_eq_some_of_forall {key : String} {value : α} {entries : List (String × α)}
    (present : key ∈ entries.map Prod.fst)
    (same : ∀ entry ∈ entries, entry.1 = key → entry.2 = value) :
    entries.lookup key = some value := by
  obtain ⟨entry, member, isKey⟩ := List.mem_map.1 present
  cases found : entries.lookup key with
  | none =>
      have differs := List.lookup_eq_none_iff.1 found entry member
      simp [isKey] at differs
  | some first =>
      obtain ⟨before, after, rfl, -⟩ := List.lookup_eq_some_iff.1 found
      exact congrArg some (same (key, first) (by simp) rfl)

/-! ## Lists in step -/

section

variable {related : α → β → Prop} {first : List α} {second : List β}

theorem exists_left_of_mem (inStep : List.Forall₂ related first second) {right : β}
    (member : right ∈ second) : ∃ left ∈ first, related left right := by
  induction inStep with
  | nil => cases member
  | cons head _ ih =>
      rcases List.mem_cons.1 member with rfl | later
      · exact ⟨_, List.mem_cons_self, head⟩
      · obtain ⟨left, isLeft, isRelated⟩ := ih later
        exact ⟨left, List.mem_cons_of_mem _ isLeft, isRelated⟩

theorem exists_right_of_mem (inStep : List.Forall₂ related first second) {left : α}
    (member : left ∈ first) : ∃ right ∈ second, related left right :=
  exists_left_of_mem inStep.flip member

/-- A list is in step with some list if each of its items is related to something. -/
theorem exists_inStep_iff :
    (∃ second, List.Forall₂ related first second) ↔ ∀ left ∈ first, ∃ right, related left right := by
  induction first with
  | nil => simp
  | cons left rest ih =>
      rw [List.forall_mem_cons, ← ih]
      constructor
      · rintro ⟨_, inStep⟩
        obtain ⟨right, later, here, inStep, -⟩ := List.forall₂_cons_left_iff.1 inStep
        exact ⟨⟨right, here⟩, later, inStep⟩
      · rintro ⟨⟨right, here⟩, later, inStep⟩
        exact ⟨right :: later, .cons here inStep⟩

/-- What holds of any two items of a list passes over to a list that is in step with it. -/
theorem pairwise_of_inStep {before : α → α → Prop} {after : β → β → Prop}
    (inStep : List.Forall₂ related first second) (ordered : first.Pairwise before)
    (transfer : ∀ left ∈ first, ∀ left' ∈ first, before left left' → ∀ right right',
      related left right → related left' right' → after right right') :
    second.Pairwise after := by
  induction inStep with
  | nil => exact .nil
  | cons head tail ih =>
      obtain ⟨above, ordered⟩ := List.pairwise_cons.1 ordered
      refine List.pairwise_cons.2 ⟨fun right' member => ?_, ih ordered ?_⟩
      · obtain ⟨left', isLeft, here⟩ := exists_left_of_mem tail member
        exact transfer _ List.mem_cons_self left' (List.mem_cons_of_mem _ isLeft)
          (above left' isLeft) _ _ head here
      · intro left isLeft left' isLeft'
        exact transfer left (List.mem_cons_of_mem _ isLeft) left' (List.mem_cons_of_mem _ isLeft')

/-- Lists in step have the same image if what is in step is sent to the same. -/
theorem map_eq_of_inStep {γ : Type} {left : α → γ} {right : β → γ}
    (inStep : List.Forall₂ related first second)
    (same : ∀ item other, related item other → left item = right other) :
    first.map left = second.map right := by
  rw [← List.forall₂_eq_eq_eq, List.forall₂_map_left_iff, List.forall₂_map_right_iff]
  exact inStep.imp same

/-- Lists that are in step with one list are equal if their entries are. -/
theorem eq_of_inStep {third : List β} (here : List.Forall₂ related first second)
    (there : List.Forall₂ related first third)
    (unique : ∀ right ∈ second, ∀ other ∈ third, ∀ left, related left right → related left other →
      right = other) : second = third := by
  induction here generalizing third with
  | nil =>
      cases there
      rfl
  | cons head _ ih =>
      obtain _ | ⟨head', tail'⟩ := there
      have sameHead := unique _ List.mem_cons_self _ List.mem_cons_self _ head head'
      have sameTail := ih tail' fun right isRight other isOther =>
        unique right (List.mem_cons_of_mem _ isRight) other (List.mem_cons_of_mem _ isOther)
      rw [sameHead, sameTail]

end

end DecisionFlow
