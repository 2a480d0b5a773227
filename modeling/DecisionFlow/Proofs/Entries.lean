import DecisionFlow.Entries
import Mathlib.Data.List.Sort

/-!
# What entries hold

Entries in key order are determined by what is found in them. When entries are written one after
the other, a value stays under its name unless a later one has the same name, so none is lost exactly
if entries with one name have one value (`forall_find?_reverse_iff`).
-/

set_option autoImplicit false

namespace DecisionFlow

namespace Entries

variable {α : Type}

theorem mem_iff_find?_eq_some {entries : Entries α} (increasing : Increasing entries)
    {entry : String × α} : entry ∈ entries ↔ find? entries entry.1 = some entry.2 := by
  refine ⟨fun member => ?_, mem_of_find?⟩
  induction entries with
  | nil => cases member
  | cons first rest ih =>
      obtain ⟨above, increasing⟩ := List.pairwise_cons.1 increasing
      rw [find?_cons]
      rcases List.mem_cons.1 member with rfl | later
      · rw [if_pos rfl]
      · rw [if_neg (String.ne_of_lt (above entry later)), ih increasing later]

/-- Entries in order are equal if they have the same members. -/
theorem eq_of_mem_iff {entries others : Entries α} (increasing : Increasing entries)
    (otherIncreasing : Increasing others) (same : ∀ entry, entry ∈ entries ↔ entry ∈ others) :
    entries = others := by
  have : Std.Asymm fun entry later : String × α => entry.1 < later.1 :=
    ⟨fun _ _ => String.lt_asymm⟩
  exact List.Pairwise.eq_of_mem_iff increasing otherIncreasing same

theorem find?_reverse {entries : Entries α} (increasing : Increasing entries) (name : String) :
    find? entries.reverse name = find? entries name := by
  rw [← find?_ofList, ofList_of_increasing increasing]

/-! ## Entries beside others -/

/-- Of entries that are written one after the other none is lost exactly if those with one name have
one value. -/
theorem forall_find?_reverse_iff (entries : List (String × α)) :
    (∀ entry ∈ entries, find? entries.reverse entry.1 = some entry.2) ↔
      ∀ entry ∈ entries, ∀ other ∈ entries, entry.1 = other.1 → entry.2 = other.2 := by
  constructor
  · intro kept entry member other otherMember sameName
    have found := kept entry member
    rw [sameName, kept other otherMember] at found
    exact (Option.some.inj found).symm
  · intro agree entry member
    have present : (find? entries.reverse entry.1).isSome = true := by
      rw [← mem_keys_iff, List.map_reverse, List.mem_reverse]
      exact List.mem_map_of_mem member
    obtain ⟨value, found⟩ := Option.isSome_iff_exists.1 present
    rw [found, agree entry member _ (List.mem_reverse.1 (mem_of_find? found)) rfl]

/-- Entries with other names hide no field. -/
theorem find?_ofList_append {fields entries : Entries α} {name : String}
    (fresh : name ∉ entries.map Prod.fst) :
    find? (ofList (fields ++ entries)) name = find? fields.reverse name := by
  have absent : find? entries.reverse name = none := by
    rw [← Option.not_isSome_iff_eq_none, ← mem_keys_iff, List.map_reverse, List.mem_reverse]
    exact fresh
  rw [find?_ofList, List.reverse_append, find?_append, absent, Option.none_or]

/-- What is written beside some fields is got back by leaving out the names of these. -/
theorem filter_ofList_append {fields entries : Entries α} {names : List String}
    (named : ∀ field ∈ fields, field.1 ∈ names)
    (apart : ∀ name ∈ names, name ∉ entries.map Prod.fst) (increasing : Increasing entries) :
    (ofList (fields ++ entries)).filter (fun entry => !names.contains entry.1) = entries := by
  have ordered := increasing_ofList (fields ++ entries)
  refine eq_of_mem_iff (ordered.filter _) increasing fun entry => ?_
  rw [List.mem_filter, mem_iff_find?_eq_some ordered, find?_ofList, List.reverse_append,
    find?_append, find?_reverse increasing]
  constructor
  · rintro ⟨found, isOther⟩
    refine mem_of_find? ((Option.or_eq_some_iff.1 found).resolve_right ?_)
    rintro ⟨-, isField⟩
    have isNamed := named _ (List.mem_reverse.1 (mem_of_find? isField))
    simp [isNamed] at isOther
  · intro member
    rw [(mem_iff_find?_eq_some increasing).1 member, Option.some_or]
    have isOther : entry.1 ∉ names := fun isNamed =>
      apart _ isNamed (List.mem_map_of_mem member)
    simp [isOther]

end Entries

end DecisionFlow
