import DecisionFlow.Json.Printer
import DecisionFlow.Version
import Mathlib.Data.List.DropRight

/-!
# Version requests written and read again

A request is written as the version it asks for, or as a star. Reading what was written yields the
same request if no blanks surround the version and it is neither empty nor a star. Requests that are
read from a text are of this kind, and so are those that are read from numbers.
-/

set_option autoImplicit false

namespace DecisionFlow

/-! ## Trimming -/

namespace Text

theorem trimChars_eq_rdropWhile (chars : List Char) :
    trimChars chars = (chars.dropWhile isBlank).rdropWhile isBlank := rfl

/-- Characters that are not blank stay. -/
theorem trimChars_of_solid {chars : List Char} (solid : ∀ c ∈ chars, isBlank c = false) :
    trimChars chars = chars := by
  have front : chars.dropWhile isBlank = chars := by
    apply List.dropWhile_eq_self_iff.2
    intro present
    simp [solid _ (List.getElem_mem present)]
  rw [trimChars_eq_rdropWhile, front, List.rdropWhile_eq_self_iff]
  intro present
  simp [solid _ (List.getLast_mem present)]

/-- Trimming a second time changes nothing. -/
theorem trimChars_trimChars (chars : List Char) :
    trimChars (trimChars chars) = trimChars chars := by
  have front : (trimChars chars).dropWhile isBlank = trimChars chars := by
    apply List.dropWhile_eq_self_iff.2
    intro present
    have kept : trimChars chars <+: chars.dropWhile isBlank := List.rdropWhile_prefix _ _
    rw [kept.getElem present]
    exact List.dropWhile_get_zero_not isBlank chars (present.trans_le kept.length_le)
  rw [trimChars_eq_rdropWhile (trimChars chars), front, trimChars_eq_rdropWhile chars]
  exact List.rdropWhile_idempotent _ _

theorem trim_trim (text : String) : trim (trim text) = trim text := by
  simp only [trim, String.toList_ofList, trimChars_trimChars]

theorem trim_of_solid {text : String} (solid : ∀ c ∈ text.toList, isBlank c = false) :
    trim text = text := by
  rw [trim, trimChars_of_solid solid, String.ofList_toList]

end Text

/-! ## Texts of numbers -/

/-- The characters can be part of a version that stays as it is written. -/
def Solid (chars : List Char) : Prop :=
  ∀ c ∈ chars, Text.isBlank c = false ∧ c ≠ '*'

instance (chars : List Char) : Decidable (Solid chars) :=
  List.decidableBAll _ chars

namespace Solid

theorem append {first second : List Char} (left : Solid first) (right : Solid second) :
    Solid (first ++ second) := by
  intro c member
  rcases List.mem_append.1 member with member | member
  · exact left c member
  · exact right c member

theorem of_subset {first second : List Char} (solid : Solid second) (contained : first ⊆ second) :
    Solid first :=
  fun c member => solid c (contained member)

theorem replicate {c : Char} (solid : Solid [c]) (count : Nat) :
    Solid (List.replicate count c) := by
  intro other member
  rw [List.eq_of_mem_replicate member]
  exact solid c (List.mem_singleton_self c)

theorem of_digits {chars : List Char} (digits : ∀ c ∈ chars, c.isDigit = true) : Solid chars := by
  intro c member
  have digit := digits c member
  simp only [Char.isDigit, Bool.and_eq_true, decide_eq_true_eq, ge_iff_le] at digit
  have low : 48 ≤ c.toNat := UInt32.le_iff_toNat_le.1 digit.1
  have high : c.toNat ≤ 57 := UInt32.le_iff_toNat_le.1 digit.2
  constructor
  · simp only [Text.isBlank, Text.blankRanges, Text.CodeRanges.contains, List.any_cons,
      List.any_nil, Bool.or_false, Bool.or_eq_false_iff, Bool.and_eq_false_iff,
      decide_eq_false_iff_not]
    omega
  · rintro rfl
    exact absurd low (by decide)

theorem toDigits (number : Nat) : Solid (Nat.toDigits 10 number) :=
  of_digits fun _ member => Nat.isDigit_of_mem_toDigits (by decide) (by decide) member

end Solid

namespace Decimal

theorem Digits.positional_solid {wholeSuffix : String} (suffix : Solid wholeSuffix.toList)
    (digits : Digits) : Solid (digits.positional wholeSuffix) := by
  have chars : Solid (digitChars digits.coefficient) := .toDigits _
  have zero : Solid ['0'] := by decide
  have point : Solid ['.'] := by decide
  unfold Digits.positional
  dsimp only
  split
  · exact (chars.append (zero.replicate _)).append suffix
  · split
    · exact ((chars.of_subset (List.take_subset _ _)).append point).append
        (chars.of_subset (List.drop_subset _ _))
    · exact ((zero.append point).append (zero.replicate _)).append chars

theorem Digits.scientific_solid (leading : Int) (digits : Digits) :
    Solid (digits.scientific leading) := by
  have chars : Solid (digitChars digits.coefficient) := .toDigits _
  have point : Solid ['.'] := by decide
  have sign : Solid [if leading < 0 then '-' else '+'] := by split <;> decide
  have fraction : Solid ((digitChars digits.coefficient).drop 1) :=
    chars.of_subset (List.drop_subset _ _)
  have exponent : Solid ['e'] := by decide
  have power := sign.append (.toDigits leading.natAbs)
  unfold Digits.scientific
  dsimp only
  refine ((Solid.append (chars.of_subset (List.take_subset _ _)) ?_).append exponent).append power
  split
  · decide
  · exact point.append fraction

theorem Digits.positional_ne_nil (wholeSuffix : String) (digits : Digits) :
    digits.positional wholeSuffix ≠ [] := by
  have chars : digitChars digits.coefficient ≠ [] := Nat.toDigits_ne_nil
  unfold Digits.positional
  dsimp only
  split
  · simp [chars]
  · split <;> simp

theorem Digits.scientific_ne_nil (leading : Int) (digits : Digits) :
    digits.scientific leading ≠ [] := by
  simp [Digits.scientific]

theorem Digits.render_solid {style : Notation} (suffix : Solid style.wholeSuffix.toList)
    (digits : Digits) : Solid (digits.render style) ∧ digits.render style ≠ [] := by
  unfold Digits.render
  dsimp only
  split
  · exact ⟨digits.positional_solid suffix, digits.positional_ne_nil _⟩
  · exact ⟨digits.scientific_solid _, digits.scientific_ne_nil _⟩

/-- The text of a double has no blanks and no star, and it is not empty. -/
theorem render_solid {style : Notation} (suffix : Solid style.wholeSuffix.toList) (value : Float) :
    Solid (render style value).toList ∧ render style value ≠ "" := by
  unfold render
  split
  next => decide
  next negative _ => cases negative <;> decide
  next negative significand exponent _ =>
    have zero : Solid ['0'] := by decide
    have sign : Solid (if negative then ['-'] else []) := by split <;> decide
    dsimp only
    split
    · simp only [String.toList_ofList, ne_eq, String.ofList_eq_empty_iff]
      exact ⟨sign.append (zero.append suffix), by simp⟩
    · obtain ⟨solid, present⟩ := Digits.render_solid suffix (shortest style.tie significand exponent)
      simp only [String.toList_ofList]
      exact ⟨sign.append solid, by simp [present]⟩

end Decimal

theorem renderFloat_solid (value : Float) :
    Solid (Json.renderFloat value).toList ∧ Json.renderFloat value ≠ "" := by
  have suffix : Solid Json.numberNotation.wholeSuffix.toList := by decide
  exact Decimal.render_solid suffix value

theorem toString_int_solid (value : Int) :
    Solid (toString value).toList ∧ toString value ≠ "" := by
  have minus : Solid ['-'] := by decide
  cases value with
  | ofNat number =>
      change Solid number.repr.toList ∧ number.repr ≠ ""
      rw [Nat.toList_repr, Nat.repr_eq_ofList_toDigits]
      exact ⟨.toDigits number, by simp [Nat.toDigits_ne_nil]⟩
  | negSucc number =>
      change Solid ("-" ++ (number + 1).repr).toList ∧ "-" ++ (number + 1).repr ≠ ""
      rw [String.toList_append, Nat.toList_repr]
      exact ⟨minus.append (.toDigits _), by simp⟩

/-! ## Requests -/

namespace VersionRequest

/-- The request is read from the way it is written. -/
def Rereads (request : VersionRequest) : Prop :=
  ofText (some request.text) = request

theorem rereads_any : Rereads .any := by
  unfold Rereads
  decide

theorem rereads_exact {version : String} (trimmed : Text.trim version = version)
    (present : version ≠ "") (noStar : version ≠ anyText) : Rereads (.exact version) := by
  simp [Rereads, text, ofText, trimmed, present, noStar]

theorem rereads_exact_of_solid {version : String} (solid : Solid version.toList)
    (present : version ≠ "") : Rereads (.exact version) := by
  apply rereads_exact (Text.trim_of_solid fun c member => (solid c member).1) present
  rintro rfl
  exact (solid '*' (by decide)).2 rfl

/-- What was read from a text rereads. -/
theorem rereads_ofText (text : Option String) : (ofText text).Rereads := by
  cases text with
  | none => exact rereads_any
  | some text =>
      by_cases star : Text.trim text = "" ∨ Text.trim text = anyText
      · simp only [ofText, Option.map_some, star, ↓reduceIte]
        exact rereads_any
      · simp only [ofText, Option.map_some, star, ↓reduceIte]
        obtain ⟨present, noStar⟩ := not_or.1 star
        exact rereads_exact (Text.trim_trim text) present noStar

end VersionRequest

end DecisionFlow
