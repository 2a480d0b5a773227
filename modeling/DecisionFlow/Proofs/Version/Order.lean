import DecisionFlow.Version
import Mathlib.Data.Char
import Mathlib.Data.List.Lex

/-!
# The order of versions

Every version is equal to itself, and exchanging two versions turns their order around. But the order is
not transitive. Two numbers are compared by their values and a number with another component as texts,
so a component that is no number may stand between two numbers whose values are in the opposite order:
`10` comes before `10-rc` and `10-rc` before `9`, while `9` comes before `10`.

There is no other way to go round in a circle. Versions are totally preordered exactly if none of them has,
where it first differs from two others, a text between numbers of these while the one with the higher
text is not the higher version (`isTotalPreorder_iff`).
-/

set_option autoImplicit false

namespace DecisionFlow

/-! ## Texts -/

theorem compareChars_eq_lt_iff {left right : List Char} :
    compareChars left right = .lt ↔ left < right := by
  unfold compareChars
  split
  · simpa
  · split <;> simp_all

theorem compareChars_eq_eq_iff {left right : List Char} :
    compareChars left right = .eq ↔ left = right := by
  unfold compareChars
  split
  next less => simpa using less.ne
  next => split <;> simp_all

theorem isLE_compareChars_iff {left right : List Char} :
    (compareChars left right).isLE = true ↔ left ≤ right := by
  rw [Ordering.isLE_iff_eq_lt_or_eq_eq, compareChars_eq_lt_iff, compareChars_eq_eq_iff,
    le_iff_lt_or_eq]

theorem compareChars_swap (left right : List Char) :
    compareChars left right = (compareChars right left).swap := by
  rcases lt_trichotomy left right with less | rfl | greater
  · simp [compareChars, less, less.not_gt, less.ne']
  · simp [compareChars]
  · simp [compareChars, greater, greater.not_gt, greater.ne']

/-! ## Components -/

section

variable {left right : List Char}

theorem compareComponents_of_numbers {leftNumber rightNumber : Nat}
    (isLeft : componentNumber? left = some leftNumber)
    (isRight : componentNumber? right = some rightNumber) :
    compareComponents left right = compare leftNumber rightNumber := by
  simp only [compareComponents, isLeft, isRight]

theorem compareComponents_of_left (isText : componentNumber? left = none) :
    compareComponents left right = compareChars left right := by
  simp only [compareComponents, isText]

theorem compareComponents_of_right (isText : componentNumber? right = none) :
    compareComponents left right = compareChars left right := by
  cases isLeft : componentNumber? left <;> simp only [compareComponents, isLeft, isText]

instance : Std.OrientedCmp compareComponents where
  eq_swap := by
    intro left right
    cases isLeft : componentNumber? left with
    | none =>
        rw [compareComponents_of_left isLeft, compareComponents_of_right isLeft]
        exact compareChars_swap left right
    | some leftNumber =>
        cases isRight : componentNumber? right with
        | none =>
            rw [compareComponents_of_left isRight, compareComponents_of_right isRight]
            exact compareChars_swap left right
        | some rightNumber =>
            rw [compareComponents_of_numbers isLeft isRight,
              compareComponents_of_numbers isRight isLeft]
            exact Std.OrientedCmp.eq_swap

/-- Components are equal if they are the same text or the same number. -/
theorem compareComponents_eq_eq_iff : compareComponents left right = .eq ↔
    left = right ∨ ∃ number, componentNumber? left = some number ∧
      componentNumber? right = some number := by
  cases isLeft : componentNumber? left with
  | none => simp [compareComponents_of_left isLeft, compareChars_eq_eq_iff]
  | some leftNumber =>
      cases isRight : componentNumber? right with
      | none => simp [compareComponents_of_right isRight, compareChars_eq_eq_iff]
      | some rightNumber =>
          rw [compareComponents_of_numbers isLeft isRight, Nat.compare_eq_eq]
          constructor
          · rintro rfl
            exact .inr ⟨leftNumber, rfl, rfl⟩
          · rintro (rfl | ⟨number, isNumber, isNumber'⟩)
            · exact Option.some.inj (isLeft.symm.trans isRight)
            · exact Option.some.inj (isNumber.trans isNumber'.symm)

theorem compareComponents_eq_trans {middle : List Char}
    (first : compareComponents left middle = .eq) (second : compareComponents middle right = .eq) :
    compareComponents left right = .eq := by
  rcases compareComponents_eq_eq_iff.1 first with rfl | ⟨number, isLeft, isMiddle⟩
  · exact second
  · rcases compareComponents_eq_eq_iff.1 second with rfl | ⟨number', isMiddle', isRight⟩
    · exact first
    · cases isMiddle.symm.trans isMiddle'
      exact compareComponents_eq_eq_iff.2 (.inr ⟨number, isLeft, isRight⟩)

end

/-- A component that is no number stands between two that are numbers, in the order of texts. -/
structure Separates (text low high : List Char) : Prop where
  isText : componentNumber? text = none
  lowNumber : (componentNumber? low).isSome = true
  highNumber : (componentNumber? high).isSome = true
  above : low < text
  below : text < high

theorem Separates.low_lt {text low high : List Char} (separates : Separates text low high) :
    compareComponents low text = .lt := by
  rw [compareComponents_of_right separates.isText, compareChars_eq_lt_iff]
  exact separates.above

theorem Separates.lt_high {text low high : List Char} (separates : Separates text low high) :
    compareComponents text high = .lt := by
  rw [compareComponents_of_left separates.isText, compareChars_eq_lt_iff]
  exact separates.below

section

variable {first second third : List Char}

/-- A component that is no number differs from one that is. -/
theorem ne_of_text_of_number {text number : List Char} {value : Nat}
    (isText : componentNumber? text = none) (isNumber : componentNumber? number = some value) :
    text ≠ number := by
  rintro rfl
  cases isText.symm.trans isNumber

/-- Components are in order if they are compared as texts. -/
theorem lt_of_texts (below : first ≤ second) (above : second ≤ third)
    (apart : ¬ (compareComponents first second = .eq ∧ compareComponents second third = .eq)) :
    first < third := by
  by_contra notLess
  have same : first = third := eq_of_le_of_not_lt (below.trans above) notLess
  have same' : second = third := le_antisymm above (same ▸ below)
  subst same same'
  exact apart ⟨Std.ReflCmp.compare_self, Std.ReflCmp.compare_self⟩

/-- **Three components that are not in order** are two numbers and a text that separates them. -/
theorem separates_of_not_lt (lower : (compareComponents first second).isLE = true)
    (upper : (compareComponents second third).isLE = true)
    (notLess : compareComponents first third ≠ .lt)
    (apart : ¬ (compareComponents first second = .eq ∧ compareComponents second third = .eq)) :
    Separates second first third ∨ Separates third second first ∨ Separates first third second := by
  cases isFirst : componentNumber? first with
  | none =>
      rw [compareComponents_of_left isFirst, isLE_compareChars_iff] at lower
      rw [compareComponents_of_left isFirst, ne_eq, compareChars_eq_lt_iff] at notLess
      cases isSecond : componentNumber? second with
      | none =>
          rw [compareComponents_of_left isSecond, isLE_compareChars_iff] at upper
          exact absurd (lt_of_texts lower upper apart) notLess
      | some secondNumber =>
          cases isThird : componentNumber? third with
          | none =>
              rw [compareComponents_of_right isThird, isLE_compareChars_iff] at upper
              exact absurd (lt_of_texts lower upper apart) notLess
          | some thirdNumber =>
              refine .inr (.inr ⟨isFirst, by simp [isThird], by simp [isSecond], ?_, ?_⟩)
              · exact lt_of_le_of_ne (not_lt.1 notLess) (ne_of_text_of_number isFirst isThird).symm
              · exact lt_of_le_of_ne lower (ne_of_text_of_number isFirst isSecond)
  | some firstNumber =>
      cases isSecond : componentNumber? second with
      | none =>
          rw [compareComponents_of_right isSecond, isLE_compareChars_iff] at lower
          rw [compareComponents_of_left isSecond, isLE_compareChars_iff] at upper
          cases isThird : componentNumber? third with
          | none =>
              rw [compareComponents_of_right isThird, ne_eq, compareChars_eq_lt_iff] at notLess
              exact absurd (lt_of_texts lower upper apart) notLess
          | some thirdNumber =>
              refine .inl ⟨isSecond, by simp [isFirst], by simp [isThird], ?_, ?_⟩
              · exact lt_of_le_of_ne lower (ne_of_text_of_number isSecond isFirst).symm
              · exact lt_of_le_of_ne upper (ne_of_text_of_number isSecond isThird)
      | some secondNumber =>
          cases isThird : componentNumber? third with
          | none =>
              rw [compareComponents_of_right isThird, isLE_compareChars_iff] at upper
              rw [compareComponents_of_right isThird, ne_eq, compareChars_eq_lt_iff] at notLess
              refine .inr (.inl ⟨isThird, by simp [isSecond], by simp [isFirst], ?_, ?_⟩)
              · exact lt_of_le_of_ne upper (ne_of_text_of_number isThird isSecond).symm
              · exact lt_of_le_of_ne (not_lt.1 notLess) (ne_of_text_of_number isThird isFirst)
          | some thirdNumber =>
              simp only [compareComponents_of_numbers isFirst isSecond,
                compareComponents_of_numbers isSecond isThird,
                compareComponents_of_numbers isFirst isThird, Nat.isLE_compare, ne_eq,
                Nat.compare_eq_lt, Nat.compare_eq_eq] at lower upper notLess apart
              omega

end

/-! ## Lists of components -/

/-- The order of lists of components is lexicographic. -/
theorem compareComponentLists_eq :
    compareComponentLists = List.compareLex compareComponents := by
  funext left right
  induction left generalizing right with
  | nil => cases right <;> rfl
  | cons part parts ih =>
      cases right with
      | nil => rfl
      | cons other others =>
          rw [compareComponentLists, List.compareLex_cons_cons, ← ih]
          cases compareComponents part other <;> rfl

instance : Std.OrientedCmp compareComponentLists := by
  rw [compareComponentLists_eq]
  infer_instance

theorem compareComponentLists_cons {left right : List Char} {lefts rights : List (List Char)} :
    compareComponentLists (left :: lefts) (right :: rights) =
      (compareComponents left right).then (compareComponentLists lefts rights) := by
  rw [compareComponentLists_eq, List.compareLex_cons_cons]

/-- Where three lists first differ, the middle one has a text that separates numbers of the other two,
and yet the one with the higher text is not the higher one. -/
inductive ComponentConflict : (low middle high : List (List Char)) → Prop where
  | here {low middle high : List Char} {lows middles highs : List (List Char)}
      (separates : Separates middle low high)
      (notHigher : (compareComponentLists (high :: highs) (low :: lows)).isLE = true) :
      ComponentConflict (low :: lows) (middle :: middles) (high :: highs)
  | later {low middle high : List Char} {lows middles highs : List (List Char)}
      (lowEqual : compareComponents low middle = .eq)
      (highEqual : compareComponents middle high = .eq)
      (conflict : ComponentConflict lows middles highs) :
      ComponentConflict (low :: lows) (middle :: middles) (high :: highs)

namespace ComponentConflict

variable {low middle high : List (List Char)}

/-- Lists in conflict are ordered in a circle. -/
theorem circle (conflict : ComponentConflict low middle high) :
    compareComponentLists low middle = .lt ∧ compareComponentLists middle high = .lt ∧
      (compareComponentLists high low).isLE = true := by
  induction conflict with
  | here separates notHigher =>
      refine ⟨?_, ?_, notHigher⟩
      · rw [compareComponentLists_cons, separates.low_lt]
        rfl
      · rw [compareComponentLists_cons, separates.lt_high]
        rfl
  | later lowEqual highEqual conflict ih =>
      have around := compareComponents_eq_trans lowEqual highEqual
      rw [Std.OrientedCmp.eq_comm] at around
      simpa only [compareComponentLists_cons, lowEqual, highEqual, around, Ordering.eq_then] using ih

end ComponentConflict

/-- **Lists that are not ordered transitively are in conflict.** -/
theorem exists_conflict {first second third : List (List Char)}
    (lower : (compareComponentLists first second).isLE = true)
    (upper : (compareComponentLists second third).isLE = true)
    (above : compareComponentLists first third = .gt) :
    ComponentConflict first second third ∨ ComponentConflict second third first ∨
      ComponentConflict third first second := by
  induction first generalizing second third with
  | nil => cases third <;> cases above
  | cons part parts ih =>
      cases second with
      | nil => cases lower
      | cons part' parts' =>
          cases third with
          | nil => cases upper
          | cons part'' parts'' =>
              have back : (compareComponentLists (part'' :: parts'') (part :: parts)).isLE = true := by
                rw [Std.OrientedCmp.gt_iff_lt.1 above]
                rfl
              have lower' := lower
              have upper' := upper
              simp only [compareComponentLists_cons] at lower upper above
              by_cases equal : compareComponents part part' = .eq ∧
                compareComponents part' part'' = .eq
              · obtain ⟨lowEqual, highEqual⟩ := equal
                have around := compareComponents_eq_trans lowEqual highEqual
                rw [lowEqual, Ordering.eq_then] at lower
                rw [highEqual, Ordering.eq_then] at upper
                rw [around, Ordering.eq_then] at above
                have backEqual := Std.OrientedCmp.eq_comm.1 around
                rcases ih lower upper above with conflict | conflict | conflict
                · exact .inl (.later lowEqual highEqual conflict)
                · exact .inr (.inl (.later highEqual backEqual conflict))
                · exact .inr (.inr (.later backEqual lowEqual conflict))
              · have notLess : compareComponents part part'' ≠ .lt := by
                  intro less
                  rw [less] at above
                  cases above
                rcases separates_of_not_lt (Ordering.isLE_left_of_isLE_then lower)
                  (Ordering.isLE_left_of_isLE_then upper) notLess equal with
                  separates | separates | separates
                · exact .inl (.here separates back)
                · exact .inr (.inl (.here separates lower'))
                · exact .inr (.inr (.here separates upper'))

/-! ## Versions -/

instance : Std.OrientedCmp compareVersions where
  eq_swap := by
    intro left right
    exact (Std.OrientedCmp.eq_swap : compareComponentLists _ _ = _)

/-- Where three versions first differ, the middle one has a text that separates numbers of the other
two, and yet the one with the higher text is not the higher version. -/
def VersionConflict (low middle high : String) : Prop :=
  ComponentConflict (splitAtPoints low.toList) (splitAtPoints middle.toList)
    (splitAtPoints high.toList)

/-- The order of versions is transitive where no three of them are in conflict. -/
theorem compareVersions_trans {known : String → Prop}
    (noConflict : ∀ low middle high, known low → known middle → known high →
      ¬ VersionConflict low middle high)
    {first second third : String} (isFirst : known first) (isSecond : known second)
    (isThird : known third) (lower : (compareVersions first second).isLE = true)
    (upper : (compareVersions second third).isLE = true) :
    (compareVersions first third).isLE = true := by
  by_contra notBelow
  have above : compareVersions first third = .gt := by
    simpa [Ordering.isLE_iff_ne_gt] using notBelow
  rcases exists_conflict lower upper above with conflict | conflict | conflict
  · exact noConflict first second third isFirst isSecond isThird conflict
  · exact noConflict second third first isSecond isThird isFirst conflict
  · exact noConflict third first second isThird isFirst isSecond conflict

/-- **How versions are ordered.** Every version is equal to itself, and exchanging versions turns their
order around. The order of any given versions is transitive exactly if no three of them are in
conflict. -/
theorem isTotalPreorder_iff (known : String → Prop) :
    (∀ version, compareVersions version version = .eq) ∧
      (∀ first second, compareVersions second first = (compareVersions first second).swap) ∧
        ((∀ first second third, known first → known second → known third →
            (compareVersions first second).isLE = true →
              (compareVersions second third).isLE = true →
                (compareVersions first third).isLE = true) ↔
          ∀ low middle high, known low → known middle → known high →
            ¬ VersionConflict low middle high) := by
  refine ⟨fun version => Std.ReflCmp.compare_self, fun first second => Std.OrientedCmp.eq_swap,
    ?_, ?_⟩
  · intro transitive low middle high isLow isMiddle isHigh conflict
    obtain ⟨lower, upper, around⟩ := conflict.circle
    have back := transitive middle high low isMiddle isHigh isLow
      (Ordering.isLE_of_eq_lt upper) around
    have above : compareVersions middle low = .gt := Std.OrientedCmp.gt_iff_lt.2 lower
    rw [above] at back
    cases back
  · intro noConflict first second third isFirst isSecond isThird lower upper
    exact compareVersions_trans noConflict isFirst isSecond isThird lower upper

/-- Version `9` comes before `10` and `10` before `10-rc`, but `10-rc` comes before `9`: it is compared
with both as a text. -/
theorem not_transitive_of_release_candidate :
    ¬ ∀ first second third, (compareVersions first second).isLE = true →
      (compareVersions second third).isLE = true → (compareVersions first third).isLE = true := by
  intro transitive
  have below : (compareVersions "9" "10-rc").isLE = true :=
    transitive "9" "10" "10-rc" (by decide +kernel) (by decide +kernel)
  exact absurd below (by decide +kernel)

end DecisionFlow
