import DecisionFlow.Proofs.Version.Order
import Mathlib.Algebra.Group.Nat.Defs

/-!
# Versions made of numbers

Versions that are numbers between points should be ordered by the values of these numbers, the first
difference deciding. A component below two to the power sixty-four is a number, and there that is how
versions are ordered. A larger component is a text, and texts are compared digit by digit from the front:
this still orders components with equally many digits by their values, but of two with different numbers
of digits the shorter one may be taken for the higher one.

Versions are ordered by their values exactly if this does not happen at the place where their order is
decided (`compareVersions_text_eq_iff`).
-/

set_option autoImplicit false

namespace DecisionFlow

open Decimal (wordBound natOfDigits)

/-! ## Runs of digits -/

/-- Some decimal digits. -/
structure IsDigits (run : List Char) : Prop where
  nonempty : run ≠ []
  digits : ∀ c ∈ run, c.isDigit = true

/-- The number that is written by digits. -/
def digitsValue (run : List Char) : Nat :=
  Nat.ofDigitChars 10 run 0

/-- The value of a digit. -/
def digitValue (c : Char) : Nat :=
  c.toNat - '0'.toNat

theorem natOfDigits_eq (run : List Char) : natOfDigits run = digitsValue run := by
  rw [natOfDigits, digitsValue, Nat.ofDigitChars_eq_foldl]
  simp only [Nat.mul_comm]

theorem digitsValue_cons (c : Char) (run : List Char) :
    digitsValue (c :: run) = 10 ^ run.length * digitValue c + digitsValue run := by
  rw [digitsValue, Nat.ofDigitChars_cons, Nat.ofDigitChars_eq_ofDigitChars_zero]
  simp [digitsValue, digitValue]

theorem digitsValue_append (front back : List Char) :
    digitsValue (front ++ back) = 10 ^ back.length * digitsValue front + digitsValue back := by
  rw [digitsValue, Nat.ofDigitChars_append, Nat.ofDigitChars_eq_ofDigitChars_zero]
  rfl

theorem digitValue_lt_ten {c : Char} (isDigit : c.isDigit = true) : digitValue c < 10 := by
  simp only [Char.isDigit, Bool.and_eq_true, decide_eq_true_eq, ge_iff_le] at isDigit
  have high : c.toNat ≤ 57 := UInt32.le_iff_toNat_le.1 isDigit.2
  have zero : '0'.toNat = 48 := rfl
  rw [digitValue, zero]
  omega

/-- Digits are ordered by their values. -/
theorem digitValue_lt_iff {c d : Char} (isDigit : c.isDigit = true) (isDigit' : d.isDigit = true) :
    digitValue c < digitValue d ↔ c < d := by
  simp only [Char.isDigit, Bool.and_eq_true, decide_eq_true_eq, ge_iff_le] at isDigit isDigit'
  have low : 48 ≤ c.toNat := UInt32.le_iff_toNat_le.1 isDigit.1
  have low' : 48 ≤ d.toNat := UInt32.le_iff_toNat_le.1 isDigit'.1
  have zero : '0'.toNat = 48 := rfl
  rw [digitValue, digitValue, zero, Char.lt_def, UInt32.lt_iff_toNat_lt]
  change c.toNat - 48 < d.toNat - 48 ↔ c.toNat < d.toNat
  omega

theorem digitsValue_lt {run : List Char} (digits : ∀ c ∈ run, c.isDigit = true) :
    digitsValue run < 10 ^ run.length := by
  induction run with
  | nil => decide
  | cons c run ih =>
      obtain ⟨isDigit, later⟩ := List.forall_mem_cons.1 digits
      have first : 10 ^ run.length * digitValue c ≤ 10 ^ run.length * 9 :=
        Nat.mul_le_mul_left _ (Nat.le_of_lt_succ (digitValue_lt_ten isDigit))
      have rest := ih later
      rw [digitsValue_cons, List.length_cons, Nat.pow_succ]
      omega

/-! ## Digits as texts -/

theorem compareChars_cons_self (c : Char) (left right : List Char) :
    compareChars (c :: left) (c :: right) = compareChars left right := by
  simp [compareChars]

theorem compareChars_cons_of_lt {c d : Char} (less : c < d) (left right : List Char) :
    compareChars (c :: left) (d :: right) = .lt :=
  compareChars_eq_lt_iff.2 (List.cons_lt_cons_iff.2 (.inl less))

theorem compareChars_cons_of_gt {c d : Char} (greater : d < c) (left right : List Char) :
    compareChars (c :: left) (d :: right) = .gt := by
  rw [compareChars_swap, compareChars_cons_of_lt greater]
  rfl

/-- Equally many digits are ordered as texts as they are by their values. -/
theorem compareChars_of_length_eq {left right : List Char} (sameLength : left.length = right.length)
    (digits : ∀ c ∈ left, c.isDigit = true) (digits' : ∀ c ∈ right, c.isDigit = true) :
    compareChars left right = compare (digitsValue left) (digitsValue right) := by
  induction left generalizing right with
  | nil =>
      obtain rfl := List.length_eq_zero_iff.1 sameLength.symm
      decide
  | cons c left ih =>
      cases right with
      | nil => cases sameLength
      | cons d right =>
          obtain ⟨isDigit, later⟩ := List.forall_mem_cons.1 digits
          obtain ⟨isDigit', later'⟩ := List.forall_mem_cons.1 digits'
          have sameRest : left.length = right.length := Nat.succ.inj sameLength
          have bound := digitsValue_lt later
          have bound' := digitsValue_lt later'
          rw [digitsValue_cons, digitsValue_cons, sameRest]
          rw [sameRest] at bound
          rcases lt_trichotomy c d with less | rfl | greater
          · have apart : 10 ^ right.length * (digitValue c + 1) ≤ 10 ^ right.length * digitValue d :=
              Nat.mul_le_mul_left _ ((digitValue_lt_iff isDigit isDigit').2 less)
            rw [compareChars_cons_of_lt less, eq_comm, Nat.compare_eq_lt]
            rw [Nat.mul_succ] at apart
            omega
          · rw [compareChars_cons_self, ih sameRest later later']
            simp [Nat.compare_eq_ite_lt]
          · have apart : 10 ^ right.length * (digitValue d + 1) ≤ 10 ^ right.length * digitValue c :=
              Nat.mul_le_mul_left _ ((digitValue_lt_iff isDigit' isDigit).2 greater)
            rw [compareChars_cons_of_gt greater, eq_comm, Nat.compare_eq_gt]
            rw [Nat.mul_succ] at apart
            omega

/-- A text is compared with a longer one by what that begins with, and comes first if both are the
same. -/
theorem compareChars_append {left front : List Char} (sameLength : left.length = front.length)
    {back : List Char} (present : back ≠ []) :
    compareChars left (front ++ back) =
      if compareChars left front = .gt then .gt else .lt := by
  induction left generalizing front with
  | nil =>
      obtain rfl := List.length_eq_zero_iff.1 sameLength.symm
      obtain ⟨c, back, rfl⟩ := List.exists_cons_of_ne_nil present
      rfl
  | cons c left ih =>
      cases front with
      | nil => cases sameLength
      | cons d front =>
          have sameRest : left.length = front.length := Nat.succ.inj sameLength
          rw [List.cons_append]
          rcases lt_trichotomy c d with less | rfl | greater
          · simp only [compareChars_cons_of_lt less]
            rfl
          · rw [compareChars_cons_self, compareChars_cons_self, ih sameRest]
          · simp only [compareChars_cons_of_gt greater]
            rfl

/-! ## Components made of digits -/

theorem componentNumber?_of_digits {run : List Char} (digits : IsDigits run) :
    componentNumber? run =
      if digitsValue run < wordBound then some (digitsValue run) else none := by
  obtain ⟨c, rest, rfl⟩ := List.exists_cons_of_ne_nil digits.nonempty
  have noSign : c ≠ '+' := by
    rintro rfl
    exact absurd (digits.digits '+' List.mem_cons_self) (by decide)
  have all : (c :: rest).all Char.isDigit = true := List.all_eq_true.2 digits.digits
  simp [componentNumber?, noSign, all, natOfDigits_eq]

section

variable {left right : List Char}

/-- Components that are small enough are numbers. -/
theorem compareComponents_of_lt (leftDigits : IsDigits left) (rightDigits : IsDigits right)
    (leftSmall : digitsValue left < wordBound) (rightSmall : digitsValue right < wordBound) :
    compareComponents left right = compare (digitsValue left) (digitsValue right) := by
  apply compareComponents_of_numbers
  · rw [componentNumber?_of_digits leftDigits, if_pos leftSmall]
  · rw [componentNumber?_of_digits rightDigits, if_pos rightSmall]

/-- A component that is too large for a number is compared as a text. -/
theorem compareComponents_of_large (leftDigits : IsDigits left) (rightDigits : IsDigits right)
    (large : wordBound ≤ digitsValue left ∨ wordBound ≤ digitsValue right) :
    compareComponents left right = compareChars left right := by
  rcases large with large | large
  · apply compareComponents_of_left
    rw [componentNumber?_of_digits leftDigits, if_neg large.not_gt]
  · apply compareComponents_of_right
    rw [componentNumber?_of_digits rightDigits, if_neg large.not_gt]

/-- Components that count as equal have the same value. -/
theorem digitsValue_eq_of_compareComponents (leftDigits : IsDigits left)
    (rightDigits : IsDigits right) (equal : compareComponents left right = .eq) :
    digitsValue left = digitsValue right := by
  rcases compareComponents_eq_eq_iff.1 equal with rfl | ⟨number, isLeft, isRight⟩
  · rfl
  · rw [componentNumber?_of_digits leftDigits, Option.ite_none_right_eq_some] at isLeft
    rw [componentNumber?_of_digits rightDigits, Option.ite_none_right_eq_some] at isRight
    exact Option.some.inj (isLeft.2.trans isRight.2.symm)

/-- Of two components, one of them too large for a number, the one with fewer digits is held for the
higher one exactly if the other one begins with a lower number. -/
theorem compareComponents_of_length_lt (leftDigits : IsDigits left) (rightDigits : IsDigits right)
    (large : wordBound ≤ digitsValue left ∨ wordBound ≤ digitsValue right)
    (fewer : left.length < right.length) :
    compareComponents left right =
      if digitsValue (right.take left.length) < digitsValue left then .gt else .lt := by
  have sameLength : left.length = (right.take left.length).length := by
    rw [List.length_take, Nat.min_eq_left fewer.le]
  have present : right.drop left.length ≠ [] := by
    simpa using fewer
  have frontDigits : ∀ c ∈ right.take left.length, c.isDigit = true := fun c member =>
    rightDigits.digits c (List.mem_of_mem_take member)
  have asTexts := compareChars_append sameLength present
  rw [List.take_append_drop,
    compareChars_of_length_eq sameLength leftDigits.digits frontDigits] at asTexts
  rw [compareComponents_of_large leftDigits rightDigits large, asTexts]
  simp only [Nat.compare_eq_gt]

/-- If the other one does not, then it is the higher one. -/
theorem digitsValue_lt_of_take (large : wordBound ≤ digitsValue left ∨ wordBound ≤ digitsValue right)
    (fewer : left.length < right.length)
    (notAhead : digitsValue left ≤ digitsValue (right.take left.length)) :
    digitsValue left < digitsValue right := by
  have whole := digitsValue_append (right.take left.length) (right.drop left.length)
  rw [List.take_append_drop] at whole
  have shifted : 10 ≤ 10 ^ (right.drop left.length).length := by
    apply Nat.le_self_pow
    rw [List.length_drop]
    omega
  have grown := Nat.mul_le_mul_right (digitsValue (right.take left.length)) shifted
  have positive : 0 < wordBound := by decide
  omega

end

/-! ## Lists of components made of digits -/

/-- The values of components. -/
def valuesOf (runs : List (List Char)) : List Nat :=
  runs.map digitsValue

/-- The order of components by their values, the first difference deciding. -/
def compareValues (lefts rights : List (List Char)) : Ordering :=
  List.compareLex compare (valuesOf lefts) (valuesOf rights)

theorem compareValues_cons (left right : List Char) (lefts rights : List (List Char)) :
    compareValues (left :: lefts) (right :: rights) =
      (compare (digitsValue left) (digitsValue right)).then (compareValues lefts rights) := by
  rw [compareValues, valuesOf, valuesOf, List.map_cons, List.map_cons, List.compareLex_cons_cons]
  rfl

instance : Std.OrientedCmp compareValues where
  eq_swap := by
    intro lefts rights
    exact (Std.OrientedCmp.eq_swap : List.compareLex compare (valuesOf lefts) (valuesOf rights) = _)

/-- The first list is taken for the higher one: where the two first differ it has fewer digits, the other
component is too large for a number and begins with a lower one, and yet the first list is not higher by
its values. -/
inductive TakenForHigher : List (List Char) → List (List Char) → Prop where
  | here {short long : List Char} {shorts longs : List (List Char)}
      (fewer : short.length < long.length) (large : wordBound ≤ digitsValue long)
      (ahead : digitsValue (long.take short.length) < digitsValue short)
      (notHigher : (compareValues (short :: shorts) (long :: longs)).isLE = true) :
      TakenForHigher (short :: shorts) (long :: longs)
  | later {left right : List Char} {lefts rights : List (List Char)}
      (equal : compareComponents left right = .eq) (taken : TakenForHigher lefts rights) :
      TakenForHigher (left :: lefts) (right :: rights)

/-- Lists that are not ordered by their values are not if they change places. -/
theorem compare_ne_symm {lefts rights : List (List Char)}
    (differ : compareComponentLists lefts rights ≠ compareValues lefts rights) :
    compareComponentLists rights lefts ≠ compareValues rights lefts := by
  intro same
  apply differ
  have asListed : compareComponentLists lefts rights = (compareComponentLists rights lefts).swap :=
    Std.OrientedCmp.eq_swap
  have asValues : compareValues lefts rights = (compareValues rights lefts).swap :=
    Std.OrientedCmp.eq_swap
  rw [asListed, same, asValues]

/-- What is taken for higher is held for higher but is not higher. -/
theorem TakenForHigher.compare_ne {lefts rights : List (List Char)}
    (leftDigits : ∀ run ∈ lefts, IsDigits run) (rightDigits : ∀ run ∈ rights, IsDigits run)
    (taken : TakenForHigher lefts rights) :
    compareComponentLists lefts rights ≠ compareValues lefts rights := by
  induction taken with
  | here fewer large ahead notHigher =>
      have isShort := leftDigits _ List.mem_cons_self
      have isLong := rightDigits _ List.mem_cons_self
      rw [compareComponentLists_cons, compareComponents_of_length_lt isShort isLong (.inr large) fewer,
        if_pos ahead]
      intro same
      rw [← same] at notHigher
      cases notHigher
  | later equal taken ih =>
      obtain ⟨isLeft, laterLeft⟩ := List.forall_mem_cons.1 leftDigits
      obtain ⟨isRight, laterRight⟩ := List.forall_mem_cons.1 rightDigits
      rw [compareComponentLists_cons, compareValues_cons, equal,
        Nat.compare_eq_eq.2 (digitsValue_eq_of_compareComponents isLeft isRight equal),
        Ordering.eq_then, Ordering.eq_then]
      exact ih laterLeft laterRight

section

variable {left right : List Char} {lefts rights : List (List Char)}

/-- First components that differ, and that are ordered by their values, decide. -/
theorem compare_eq_of_first (decided : compareComponents left right ≠ .eq)
    (byValues : compareComponents left right = compare (digitsValue left) (digitsValue right)) :
    compareComponentLists (left :: lefts) (right :: rights) =
      compareValues (left :: lefts) (right :: rights) := by
  rw [compareComponentLists_cons, compareValues_cons, ← byValues]
  cases first : compareComponents left right with
  | eq => exact absurd first decided
  | lt => rfl
  | gt => rfl

/-- If the first component has fewer digits and lists are not ordered by their values, then the list is
taken for the higher one. -/
theorem takenForHigher_of_length_lt (leftDigits : IsDigits left) (rightDigits : IsDigits right)
    (large : wordBound ≤ digitsValue left ∨ wordBound ≤ digitsValue right)
    (fewer : left.length < right.length)
    (differ : compareComponentLists (left :: lefts) (right :: rights) ≠
      compareValues (left :: lefts) (right :: rights)) :
    TakenForHigher (left :: lefts) (right :: rights) := by
  have order := compareComponents_of_length_lt leftDigits rightDigits large fewer
  by_cases ahead : digitsValue (right.take left.length) < digitsValue left
  · rw [if_pos ahead] at order
    have notHigher : (compareValues (left :: lefts) (right :: rights)).isLE = true := by
      rw [Ordering.isLE_iff_ne_gt]
      intro higher
      apply differ
      rw [compareComponentLists_cons, order, higher]
      rfl
    refine .here fewer ?_ ahead notHigher
    rw [compareValues_cons] at notHigher
    have below := Nat.isLE_compare.1 (Ordering.isLE_left_of_isLE_then notHigher)
    exact large.elim (fun large => large.trans below) id
  · rw [if_neg ahead] at order
    have below := digitsValue_lt_of_take large fewer (not_lt.1 ahead)
    refine absurd (compare_eq_of_first ?_ ?_) differ
    · rw [order]
      decide
    · rw [order, Nat.compare_eq_lt.2 below]

/-- Lists that are not ordered by their values are taken for higher, one or the other. -/
theorem exists_takenForHigher (leftDigits : ∀ run ∈ lefts, IsDigits run)
    (rightDigits : ∀ run ∈ rights, IsDigits run)
    (differ : compareComponentLists lefts rights ≠ compareValues lefts rights) :
    TakenForHigher lefts rights ∨ TakenForHigher rights lefts := by
  induction lefts generalizing rights with
  | nil => cases rights <;> exact absurd rfl differ
  | cons left lefts ih =>
      cases rights with
      | nil => exact absurd rfl differ
      | cons right rights =>
          obtain ⟨isLeft, laterLeft⟩ := List.forall_mem_cons.1 leftDigits
          obtain ⟨isRight, laterRight⟩ := List.forall_mem_cons.1 rightDigits
          by_cases equal : compareComponents left right = .eq
          · have sameValue := digitsValue_eq_of_compareComponents isLeft isRight equal
            rw [compareComponentLists_cons, compareValues_cons, equal, Nat.compare_eq_eq.2 sameValue,
              Ordering.eq_then, Ordering.eq_then] at differ
            exact (ih laterLeft laterRight differ).imp (.later equal)
              (.later (Std.OrientedCmp.eq_comm.1 equal))
          · by_cases large : wordBound ≤ digitsValue left ∨ wordBound ≤ digitsValue right
            · rcases lt_trichotomy left.length right.length with fewer | sameLength | fewer
              · exact .inl (takenForHigher_of_length_lt isLeft isRight large fewer differ)
              · refine absurd (compare_eq_of_first equal ?_) differ
                rw [compareComponents_of_large isLeft isRight large]
                exact compareChars_of_length_eq sameLength isLeft.digits isRight.digits
              · exact .inr (takenForHigher_of_length_lt isRight isLeft large.symm fewer
                  (compare_ne_symm differ))
            · obtain ⟨leftSmall, rightSmall⟩ := not_or.1 large
              exact absurd (compare_eq_of_first equal (compareComponents_of_lt isLeft isRight
                (not_le.1 leftSmall) (not_le.1 rightSmall))) differ

/-- Lists are ordered by their values exactly if neither is taken for the higher one. -/
theorem compare_eq_iff_not_takenForHigher (leftDigits : ∀ run ∈ lefts, IsDigits run)
    (rightDigits : ∀ run ∈ rights, IsDigits run) :
    compareComponentLists lefts rights = compareValues lefts rights ↔
      ¬ TakenForHigher lefts rights ∧ ¬ TakenForHigher rights lefts := by
  constructor
  · intro same
    constructor
    · intro taken
      exact taken.compare_ne leftDigits rightDigits same
    · intro taken
      exact compare_ne_symm (taken.compare_ne rightDigits leftDigits) same
  · rintro ⟨notLeft, notRight⟩
    by_contra differ
    exact (exists_takenForHigher leftDigits rightDigits differ).elim notLeft notRight

/-- Nothing is taken for higher than a list of numbers. -/
theorem not_takenForHigher_of_lt (small : ∀ run ∈ rights, digitsValue run < wordBound) :
    ¬ TakenForHigher lefts rights := by
  intro taken
  induction taken with
  | here fewer large ahead notHigher =>
      exact absurd (small _ List.mem_cons_self) large.not_gt
  | later equal taken ih =>
      exact ih (List.forall_mem_cons.1 small).2

end

/-! ## Versions -/

/-- A version that consists of runs of digits with points between them. -/
structure NumericVersion where
  runs : List (List Char)
  nonempty : runs ≠ []
  digits : ∀ run ∈ runs, IsDigits run

namespace NumericVersion

/-- How the version is written. -/
def text (version : NumericVersion) : String :=
  String.ofList (['.'].intercalate version.runs)

/-- The numbers between the points. -/
def values (version : NumericVersion) : List Nat :=
  version.runs.map digitsValue

/-- A single number. -/
def ofRun (run : List Char) (digits : IsDigits run) : NumericVersion :=
  ⟨[run], List.cons_ne_nil _ _, fun _ member => List.mem_singleton.1 member ▸ digits⟩

end NumericVersion

theorem splitAtPoints_eq_splitOn (chars : List Char) : splitAtPoints chars = chars.splitOn '.' := by
  induction chars with
  | nil => simp [splitAtPoints, List.splitOn]
  | cons c rest ih =>
      rw [splitAtPoints, List.splitOn_cons_eq_if_modifyHead, ih]
      by_cases isPoint : c = '.'
      · simp [isPoint]
      · obtain ⟨part, parts, same⟩ := List.exists_cons_of_ne_nil (List.splitOn_ne_nil '.' rest)
        simp [isPoint, same]

namespace NumericVersion

/-- The components of a version that is made of numbers are its runs of digits. -/
theorem splitAtPoints_text (version : NumericVersion) :
    splitAtPoints version.text.toList = version.runs := by
  rw [text, String.toList_ofList, splitAtPoints_eq_splitOn]
  apply List.splitOn_intercalate _ _ version.nonempty
  intro run member point
  exact absurd ((version.digits run member).digits '.' point) (by decide)

section

variable (left right : NumericVersion)

theorem compareVersions_text :
    compareVersions left.text right.text = compareComponentLists left.runs right.runs := by
  rw [compareVersions, splitAtPoints_text, splitAtPoints_text]

/-- Versions are ordered by their values if all of these are below two to the power sixty-four. -/
theorem compareVersions_text_of_lt (leftSmall : ∀ value ∈ left.values, value < wordBound)
    (rightSmall : ∀ value ∈ right.values, value < wordBound) :
    compareVersions left.text right.text = List.compareLex compare left.values right.values := by
  rw [values, List.forall_mem_map] at leftSmall rightSmall
  rw [compareVersions_text]
  apply (compare_eq_iff_not_takenForHigher left.digits right.digits).2
  constructor
  · exact not_takenForHigher_of_lt rightSmall
  · exact not_takenForHigher_of_lt leftSmall

/-- **Versions made of numbers are ordered by their values**, the first difference deciding and a version
that begins with the other one being higher, exactly if neither of them is taken for the higher one. -/
theorem compareVersions_text_eq_iff :
    compareVersions left.text right.text = List.compareLex compare left.values right.values ↔
      ¬ TakenForHigher left.runs right.runs ∧ ¬ TakenForHigher right.runs left.runs := by
  rw [compareVersions_text]
  exact compare_eq_iff_not_takenForHigher left.digits right.digits

end

/-- Two to the power sixty-four is no number any more: as a text it comes before the version `2`. -/
theorem exists_compareVersions_ne :
    ¬ ∀ left right : NumericVersion,
      compareVersions left.text right.text =
        List.compareLex compare left.values right.values := by
  intro byValues
  let large : NumericVersion :=
    ofRun "18446744073709551616".toList ⟨by decide, List.all_eq_true.1 (by decide)⟩
  let small : NumericVersion := ofRun ['2'] ⟨by decide, List.all_eq_true.1 (by decide)⟩
  have below : compareVersions large.text small.text = .lt := by decide +kernel
  have above : List.compareLex compare large.values small.values = .gt := by decide +kernel
  have same := byValues large small
  rw [below, above] at same
  cases same

end NumericVersion

end DecisionFlow
