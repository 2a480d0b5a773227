import DecisionFlow.Compilation.Resolver
import DecisionFlow.Proofs.Library
import DecisionFlow.Proofs.Outcome
import DecisionFlow.Proofs.Version.Numeric
import Mathlib.Data.List.Perm.Basic

/-!
# The highest version

A call for any version is answered with the document that remains when the versions of a flow are
compared one after the other. If one of them is higher than all others, then it remains in whatever
order they are compared. Otherwise the order matters: what is compared last remains, unless what
remained before is higher (`forall_perm_highest?_eq_iff`).

There need not be a version that is higher than all others, since some versions are equal without being
the same, and since versions may be ordered in a circle. There is one if versions are made of different
numbers that are not too large (`NumericVersion.hasHighest_text`).

This is how a library depends on the order of its registrations, and a directory on the order in which
its files are listed (`answers_agree_iff`).
-/

set_option autoImplicit false

namespace DecisionFlow

/-! ## The highest of some versions -/

/-- One of the versions is higher than all others. -/
structure IsHighest (versions : List String) (top : String) : Prop where
  member : top ∈ versions
  above : ∀ other ∈ versions, other ≠ top → compareVersions top other = .gt

/-- One of the versions is higher than all others, if there are versions at all. -/
def HasHighest (versions : List String) : Prop :=
  versions = [] ∨ ∃ top, IsHighest versions top

theorem hasHighest_iff {versions : List String} :
    HasHighest versions ↔ versions = [] ∨ ∃ top ∈ versions, ∀ other ∈ versions, other ≠ top →
      compareVersions top other = .gt := by
  refine or_congr_right (exists_congr fun top => ?_)
  constructor
  · intro highest
    exact ⟨highest.member, highest.above⟩
  · rintro ⟨member, above⟩
    exact ⟨member, above⟩

instance (versions : List String) : Decidable (HasHighest versions) :=
  decidable_of_iff' _ hasHighest_iff

section

variable {versions : List String} {top other : String}

theorem IsHighest.perm {order : List String} (highest : IsHighest versions top)
    (rearranged : order.Perm versions) : IsHighest order top :=
  ⟨rearranged.mem_iff.2 highest.member, fun other member =>
    highest.above other (rearranged.mem_iff.1 member)⟩

theorem IsHighest.below (highest : IsHighest versions top) (member : other ∈ versions)
    (different : other ≠ top) : compareVersions other top = .lt :=
  Std.OrientedCmp.gt_iff_lt.1 (highest.above other member different)

theorem IsHighest.isLE (highest : IsHighest versions top) (member : other ∈ versions) :
    (compareVersions other top).isLE = true := by
  by_cases same : other = top
  · have equal : compareVersions top top = .eq := Std.ReflCmp.compare_self
    rw [same, equal]
    rfl
  · exact Ordering.isLE_of_eq_lt (highest.below member same)

theorem IsHighest.cons_of_lt {first : String} (highest : IsHighest versions top)
    (less : compareVersions first top = .lt) : IsHighest (first :: versions) top := by
  refine ⟨List.mem_cons_of_mem _ highest.member, fun other member different => ?_⟩
  rcases List.mem_cons.1 member with rfl | member
  · exact Std.OrientedCmp.gt_iff_lt.2 less
  · exact highest.above other member different

theorem isHighest_cons_self {first : String}
    (above : ∀ other ∈ versions, compareVersions first other = .gt) :
    IsHighest (first :: versions) first := by
  refine ⟨List.mem_cons_self, fun other member different => ?_⟩
  exact above other ((List.mem_cons.1 member).resolve_left different)

/-- There is a highest version if the versions are ordered transitively and no two are equal. -/
theorem hasHighest_of_trans
    (transitive : ∀ low ∈ versions, ∀ middle ∈ versions, ∀ high ∈ versions,
      (compareVersions low middle).isLE = true → (compareVersions middle high).isLE = true →
        (compareVersions low high).isLE = true)
    (unequal : versions.Pairwise fun version other => compareVersions version other ≠ .eq) :
    HasHighest versions := by
  induction versions with
  | nil => exact .inl rfl
  | cons first rest ih =>
      obtain ⟨firstUnequal, restUnequal⟩ := List.pairwise_cons.1 unequal
      have among := ih (fun low isLow middle isMiddle high isHigh =>
        transitive low (List.mem_cons_of_mem _ isLow) middle (List.mem_cons_of_mem _ isMiddle) high
          (List.mem_cons_of_mem _ isHigh)) restUnequal
      refine .inr ?_
      rcases among with rfl | ⟨top, highest⟩
      · exact ⟨first, isHighest_cons_self (List.forall_mem_nil _)⟩
      · cases order : compareVersions first top with
        | eq => exact absurd order (firstUnequal top highest.member)
        | lt => exact ⟨top, highest.cons_of_lt order⟩
        | gt =>
            refine ⟨first, isHighest_cons_self fun other member => ?_⟩
            have below := transitive other (List.mem_cons_of_mem _ member) top
              (List.mem_cons_of_mem _ highest.member) first List.mem_cons_self (highest.isLE member)
              (Ordering.isLE_of_eq_lt (Std.OrientedCmp.gt_iff_lt.1 order))
            rcases Ordering.isLE_iff_eq_lt_or_eq_eq.1 below with less | equal
            · exact Std.OrientedCmp.gt_iff_lt.2 less
            · exact absurd (Std.OrientedCmp.eq_comm.1 equal) (firstUnequal other member)

/-- There is a highest version where no three are in conflict and no two are equal. -/
theorem hasHighest_of_noConflict
    (noConflict : ∀ low middle high, low ∈ versions → middle ∈ versions → high ∈ versions →
      ¬ VersionConflict low middle high)
    (unequal : versions.Pairwise fun version other => compareVersions version other ≠ .eq) :
    HasHighest versions :=
  hasHighest_of_trans (fun _ isLow _ isMiddle _ isHigh =>
    compareVersions_trans noConflict isLow isMiddle isHigh) unequal

end

/-- There is a highest one of versions that are made of different numbers, all below two to the power
sixty-four. -/
theorem NumericVersion.hasHighest_text {versions : List NumericVersion}
    (small : ∀ version ∈ versions, ∀ value ∈ version.values, value < Decimal.wordBound)
    (distinct : (versions.map NumericVersion.values).Nodup) :
    HasHighest (versions.map NumericVersion.text) := by
  have byValues {left right : NumericVersion} (isLeft : left ∈ versions) (isRight : right ∈ versions) :=
    left.compareVersions_text_of_lt right (small left isLeft) (small right isRight)
  apply hasHighest_of_trans
  · simp only [List.forall_mem_map]
    intro low isLow middle isMiddle high isHigh lower upper
    rw [byValues isLow isMiddle] at lower
    rw [byValues isMiddle isHigh] at upper
    rw [byValues isLow isHigh]
    exact Std.TransCmp.isLE_trans lower upper
  · rw [List.Nodup, List.pairwise_map] at distinct
    rw [List.pairwise_map]
    refine distinct.imp_of_mem fun isLeft isRight different equal => different ?_
    rw [byValues isLeft isRight] at equal
    exact Std.LawfulEqCmp.eq_of_compare equal

namespace Library

/-! ## Comparing one after the other -/

theorem higher_eq_left {first second : FlowDocument}
    (greater : compareVersions first.version second.version = .gt) : higher first second = first := by
  rw [higher, greater]

theorem higher_eq_right {first second : FlowDocument}
    (notGreater : compareVersions first.version second.version ≠ .gt) :
    higher first second = second := by
  unfold higher
  split
  next greater => exact absurd greater notGreater
  next => rfl

section

variable {versions : List String} {top : String} {first second : FlowDocument}
  {documents : List FlowDocument}

theorem version_higher_of_left (highest : IsHighest versions top) (isTop : first.version = top)
    (member : second.version ∈ versions) : (higher first second).version = top := by
  by_cases same : second.version = top
  · rcases higher_eq_or first second with chosen | chosen
    · rw [chosen, isTop]
    · rw [chosen, same]
  · have greater := highest.above second.version member same
    rw [← isTop] at greater
    rw [higher_eq_left greater, isTop]

theorem version_higher_of_right (highest : IsHighest versions top) (isTop : second.version = top)
    (member : first.version ∈ versions) : (higher first second).version = top := by
  rw [higher_eq_right, isTop]
  rw [isTop]
  exact Ordering.isLE_iff_ne_gt.1 (highest.isLE member)

/-- Once the highest version has been reached, it remains. -/
theorem version_foldl_higher (highest : IsHighest versions top)
    (subset : ∀ document ∈ first :: documents, document.version ∈ versions)
    (reached : ∃ document ∈ first :: documents, document.version = top) :
    (documents.foldl higher first).version = top := by
  induction documents generalizing first with
  | nil =>
      obtain ⟨document, member, isTop⟩ := reached
      rwa [List.mem_singleton.1 member] at isTop
  | cons second rest ih =>
      rw [List.forall_mem_cons, List.forall_mem_cons] at subset
      obtain ⟨isFirst, isSecond, later⟩ := subset
      rw [List.foldl_cons]
      apply ih
      · rw [List.forall_mem_cons]
        refine ⟨?_, later⟩
        rcases higher_eq_or first second with chosen | chosen
        · rwa [chosen]
        · rwa [chosen]
      · simp only [List.exists_mem_cons_iff] at reached ⊢
        rcases reached with isTop | isTop | reached
        · exact .inl (version_higher_of_left highest isTop isSecond)
        · exact .inl (version_higher_of_right highest isTop isFirst)
        · exact .inr reached

theorem highest?_eq_none_iff : highest? documents = none ↔ documents = [] := by
  cases documents with
  | nil => exact ⟨fun _ => rfl, fun _ => rfl⟩
  | cons first rest => simp [highest?]

/-- Of documents with different versions, the one with the highest version remains. -/
theorem highest?_eq_some {document : FlowDocument}
    (highest : IsHighest (documents.map FlowDocument.version) document.version)
    (distinct : (documents.map FlowDocument.version).Nodup) (member : document ∈ documents) :
    highest? documents = some document := by
  cases documents with
  | nil => cases member
  | cons first rest =>
      refine congrArg some ?_
      apply List.inj_on_of_nodup_map distinct (foldl_higher_mem first rest) member
      apply version_foldl_higher highest
      · intro document member
        exact List.mem_map_of_mem member
      · exact ⟨document, member, rfl⟩

/-- What is compared last remains, unless what remained before has a higher version. -/
theorem above_of_highest?_append {document last : FlowDocument}
    (remains : highest? (documents ++ [last]) = some document) (different : last ≠ document) :
    compareVersions document.version last.version = .gt := by
  cases documents with
  | nil => exact absurd (Option.some.inj remains) different
  | cons first rest =>
      have compared : higher (rest.foldl higher first) last = document := by
        simpa [highest?] using remains
      by_cases greater : compareVersions (rest.foldl higher first).version last.version = .gt
      · rw [higher_eq_left greater] at compared
        rwa [compared] at greater
      · rw [higher_eq_right greater] at compared
        exact absurd compared different

end

/-- **The order does not matter exactly if there is a highest version.** The documents come from items
that are arranged in any order, and their versions are different. -/
theorem forall_perm_highest?_eq_iff {α : Type} (document? : α → Option FlowDocument)
    (items : List α)
    (distinct : ((items.filterMap document?).map FlowDocument.version).Nodup) :
    (∀ first second : List α, first.Perm items → second.Perm items →
      highest? (first.filterMap document?) = highest? (second.filterMap document?)) ↔
      HasHighest ((items.filterMap document?).map FlowDocument.version) := by
  constructor
  · intro agree
    cases remains : highest? (items.filterMap document?) with
    | none =>
        rw [highest?_eq_none_iff.1 remains]
        exact .inl rfl
    | some top =>
        refine .inr ⟨top.version, List.mem_map_of_mem (mem_of_highest? remains), ?_⟩
        intro version member different
        obtain ⟨other, isOther, rfl⟩ := List.mem_map.1 member
        obtain ⟨item, isItem, holds⟩ := List.mem_filterMap.1 isOther
        obtain ⟨before, after, rfl⟩ := List.append_of_mem isItem
        -- The other document is compared last.
        have moved : (before ++ after ++ [item]).Perm (before ++ item :: after) := by
          rw [List.append_assoc]
          exact (List.perm_append_singleton item after).append_left before
        have same := agree _ _ moved (List.Perm.refl _)
        rw [remains, List.filterMap_append, List.filterMap_cons_some holds, List.filterMap_nil] at same
        exact above_of_highest?_append same fun equal => different (congrArg FlowDocument.version equal)
  · intro hasHighest first second isFirst isSecond
    rcases hasHighest with nothing | ⟨top, highest⟩
    · have empty {order : List α} (rearranged : order.Perm items) : order.filterMap document? = [] := by
        have same := rearranged.filterMap document?
        rw [List.map_eq_nil_iff.1 nothing] at same
        exact same.eq_nil
      rw [empty isFirst, empty isSecond]
    · obtain ⟨document, member, rfl⟩ := List.mem_map.1 highest.member
      have remains {order : List α} (rearranged : order.Perm items) :
          highest? (order.filterMap document?) = some document := by
        have same := rearranged.filterMap document?
        have sameVersions := same.map FlowDocument.version
        exact highest?_eq_some (highest.perm sameVersions) (sameVersions.nodup_iff.2 distinct)
          (same.mem_iff.2 member)
      rw [remains isFirst, remains isSecond]

/-! ## Registrations -/

/-- Distinct documents of one flow have different versions. -/
theorem Distinct.nodup_versions {documents : List FlowDocument} {flow : String}
    (distinct : Distinct documents) (own : ∀ document ∈ documents, document.id = flow) :
    (documents.map FlowDocument.version).Nodup := by
  rw [List.Nodup, List.pairwise_map]
  refine distinct.imp_of_mem fun isFirst isSecond different sameVersion => ?_
  rw [sameFlow_iff.2 ⟨(own _ isFirst).trans (own _ isSecond).symm, sameVersion⟩] at different
  cases different

/-- A call for any version is answered with the highest version of the flow. -/
theorem find?_any_registerAll {documents : List FlowDocument} (distinct : Distinct documents)
    (flow : String) : (empty.registerAll documents).find? flow .any =
      highest? (documents.filter fun document => document.id == flow) := by
  rw [(lists_registerAll_of_distinct distinct).find?_eq]
  simp [VersionRequest.accepts]

/-- The versions of a flow among some documents. -/
def versionsOf (flow : String) (documents : List FlowDocument) : List String :=
  (documents.filter fun document => document.id == flow).map FlowDocument.version

/-- The order of registrations does not matter exactly if one version of the flow is the highest. -/
theorem forall_perm_find?_eq_iff {documents : List FlowDocument} (distinct : Distinct documents)
    (flow : String) :
    (∀ first second : List FlowDocument, first.Perm documents → second.Perm documents →
      (empty.registerAll first).find? flow .any = (empty.registerAll second).find? flow .any) ↔
      HasHighest (versionsOf flow documents) := by
  have different : (versionsOf flow documents).Nodup := by
    apply Distinct.nodup_versions (distinct.filter _)
    intro document member
    exact eq_of_beq (List.mem_filter.1 member).2
  rw [versionsOf, ← List.filterMap_eq_filter] at different ⊢
  rw [← forall_perm_highest?_eq_iff _ _ different]
  refine forall₄_congr fun first second isFirst isSecond => ?_
  rw [find?_any_registerAll (distinct.perm isFirst), find?_any_registerAll (distinct.perm isSecond),
    List.filterMap_eq_filter]

end Library

/-! ## Directories -/

namespace Directory

/-- A listed file, with its name. -/
abbrev ListedFile := String × Except String String

/-- The document in a file. -/
def documentIn (file : ListedFile) : Option FlowDocument :=
  file.2.toOption.bind FlowDocument.ofText?

/-- The version of a flow in a file, if its name fits. -/
def versionIn (flow : String) (file : ListedFile) : Option FlowDocument :=
  if isCandidate flow file.1 then (documentIn file).filter fun document => document.id = flow
  else none

/-- A file holds a document if its name fits. -/
def IsReadable (flow : String) (file : ListedFile) : Prop :=
  isCandidate flow file.1 = true → (documentIn file).isSome = true

instance (flow : String) (file : ListedFile) : Decidable (IsReadable flow file) :=
  inferInstanceAs (Decidable (_ → _))

section

variable {directory : Directory} {flow : String} {file : ListedFile} {files : List ListedFile}
  {library : Library}

theorem id_of_mem_versionIn {document : FlowDocument}
    (member : document ∈ files.filterMap (versionIn flow)) : document.id = flow := by
  obtain ⟨file, -, holds⟩ := List.mem_filterMap.1 member
  rw [versionIn, Option.ite_none_right_eq_some, Option.filter_eq_some_iff] at holds
  exact of_decide_eq_true holds.2.2

theorem toOption_readDocument (directory : Directory) (flow file : String)
    (text : Except String String) :
    (directory.readDocument flow file text).toOption = documentIn (file, text) := by
  cases text with
  | error reason => rfl
  | ok text =>
      unfold readDocument documentIn
      cases read : FlowDocument.ofText? text with
      | none => simp [read, Except.toOption]
      | some document => simp [read, Except.toOption]

/-- A file that holds a version of the flow adds it to the library. -/
theorem readVersions_cons (readable : IsReadable flow file) :
    directory.readVersions flow library (file :: files) =
      directory.readVersions flow (library.registerAll (versionIn flow file).toList) files := by
  rw [readVersions, versionIn]
  cases fits : isCandidate flow file.1 with
  | false => rfl
  | true =>
      obtain ⟨document, holds⟩ := Option.isSome_iff_exists.1 (readable fits)
      have read : directory.readDocument flow file.1 file.2 = .ok document := by
        rw [← toOption_eq_some_iff, toOption_readDocument, holds]
      rw [if_pos rfl, if_pos rfl, read, holds, Option.filter_some]
      by_cases isOwn : document.id = flow
      · simp [isOwn, Library.registerAll, bind, Except.bind]
      · simp [isOwn, Library.registerAll, bind, Except.bind]

theorem readVersions_cons_of_not_isReadable (unreadable : ¬ IsReadable flow file) :
    (directory.readVersions flow library (file :: files)).toOption = none := by
  obtain ⟨fits, empty⟩ := Classical.not_imp.1 unreadable
  have read := toOption_readDocument directory flow file.1 file.2
  rw [Option.not_isSome_iff_eq_none.1 empty] at read
  rw [readVersions, if_pos fits]
  cases outcome : directory.readDocument flow file.1 file.2 with
  | error problem => rfl
  | ok document =>
      rw [outcome] at read
      cases read

/-- If all files are readable, then the versions of the flow are registered as they are listed. -/
theorem readVersions_of_readable (readable : ∀ file ∈ files, IsReadable flow file) :
    directory.readVersions flow library files =
      .ok (library.registerAll (files.filterMap (versionIn flow))) := by
  induction files generalizing library with
  | nil => rfl
  | cons file rest ih =>
      obtain ⟨here, later⟩ := List.forall_mem_cons.1 readable
      rw [readVersions_cons here, ih later]
      cases holds : versionIn flow file with
      | none =>
          rw [List.filterMap_cons_none holds]
          rfl
      | some version =>
          rw [List.filterMap_cons_some holds]
          rfl

/-- If some file is not, then there is no answer. -/
theorem readVersions_of_not_readable (unreadable : ¬ ∀ file ∈ files, IsReadable flow file) :
    (directory.readVersions flow library files).toOption = none := by
  induction files generalizing library with
  | nil => exact absurd (List.forall_mem_nil _) unreadable
  | cons file rest ih =>
      rw [List.forall_mem_cons] at unreadable
      by_cases here : IsReadable flow file
      · rw [readVersions_cons here]
        exact ih fun later => unreadable ⟨here, later⟩
      · exact readVersions_cons_of_not_isReadable here

/-- What is answered depends on the order of the files only as the highest version does. -/
theorem toOption_answer (path : String) (distinct : Library.Distinct (files.filterMap (versionIn flow)))
    (readable : ∀ file ∈ files, IsReadable flow file) :
    ((Directory.mk path (.ok files)).resolver.answer flow .any).toOption =
      some (Library.highest? (files.filterMap (versionIn flow))) := by
  have read : (Directory.mk path (.ok files)).readVersions flow Library.empty files =
      .ok (Library.empty.registerAll (files.filterMap (versionIn flow))) :=
    readVersions_of_readable readable
  have own : (files.filterMap (versionIn flow)).filter (fun document => document.id == flow) =
      files.filterMap (versionIn flow) := by
    apply List.filter_eq_self.2
    intro document member
    exact beq_iff_eq.2 (id_of_mem_versionIn member)
  have found := Library.find?_any_registerAll distinct flow
  rw [own] at found
  simp only [resolver, read]
  exact congrArg some found

theorem toOption_answer_of_not_readable (path : String)
    (unreadable : ¬ ∀ file ∈ files, IsReadable flow file) :
    ((Directory.mk path (.ok files)).resolver.answer flow .any).toOption = none := by
  have read : ((Directory.mk path (.ok files)).readVersions flow Library.empty files).toOption =
      none :=
    readVersions_of_not_readable unreadable
  simp only [resolver]
  cases outcome : (Directory.mk path (.ok files)).readVersions flow Library.empty files with
  | error problem => rfl
  | ok versions =>
      rw [outcome] at read
      cases read

/-- The versions of a flow in some files. -/
def versionsIn (flow : String) (files : List ListedFile) : List String :=
  (files.filterMap (versionIn flow)).map FlowDocument.version

/-- The order in which files are listed does not matter exactly if one version of the flow is the
highest, or if there is no answer because of a file that is not readable. -/
theorem forall_perm_answer_eq_iff (path : String)
    (distinct : Library.Distinct (files.filterMap (versionIn flow))) :
    (∀ first second : List ListedFile, first.Perm files → second.Perm files →
      ((Directory.mk path (.ok first)).resolver.answer flow .any).toOption =
        ((Directory.mk path (.ok second)).resolver.answer flow .any).toOption) ↔
      ((∀ file ∈ files, IsReadable flow file) → HasHighest (versionsIn flow files)) := by
  have different : (versionsIn flow files).Nodup :=
    distinct.nodup_versions fun document member => id_of_mem_versionIn member
  have readable_iff {order : List ListedFile} (rearranged : order.Perm files) :
      (∀ file ∈ order, IsReadable flow file) ↔ ∀ file ∈ files, IsReadable flow file :=
    forall_congr' fun file => imp_congr_left rearranged.mem_iff
  by_cases readable : ∀ file ∈ files, IsReadable flow file
  · have answered {order : List ListedFile} (rearranged : order.Perm files) :=
      toOption_answer path (distinct.perm (rearranged.filterMap _))
        ((readable_iff rearranged).2 readable)
    rw [forall_prop_of_true readable, versionsIn, ← Library.forall_perm_highest?_eq_iff _ _ different]
    refine forall₄_congr fun first second isFirst isSecond => ?_
    rw [answered isFirst, answered isSecond, Option.some_inj]
  · have silent {order : List ListedFile} (rearranged : order.Perm files) :=
      toOption_answer_of_not_readable path
        ((not_congr (readable_iff rearranged)).2 readable)
    constructor
    · intro _ isReadable
      exact absurd isReadable readable
    · intro _ first second isFirst isSecond
      rw [silent isFirst, silent isSecond]

end

end Directory

/-! ## Orders of registration and of listing -/

open Library Directory

/-- **When the order does not matter.** Documents of different ids and versions may be registered in any
order, and a directory with such documents may list its files in any order, without a change of the
flow that a call for any version is answered with. This is so exactly if one version of the flow is
higher than all others; a directory with a file that cannot be read has no answer in any order. -/
theorem answers_agree_iff (documents : List FlowDocument) (path : String)
    (files : List ListedFile) (flow : String) (distinct : Distinct documents)
    (distinctFiles : Distinct (files.filterMap (versionIn flow))) :
    ((∀ first second : List FlowDocument, first.Perm documents → second.Perm documents →
        (empty.registerAll first).find? flow .any = (empty.registerAll second).find? flow .any) ↔
      HasHighest (Library.versionsOf flow documents)) ∧
    ((∀ first second : List ListedFile, first.Perm files → second.Perm files →
        ((Directory.mk path (.ok first)).resolver.answer flow .any).toOption =
          ((Directory.mk path (.ok second)).resolver.answer flow .any).toOption) ↔
      ((∀ file ∈ files, IsReadable flow file) → HasHighest (versionsIn flow files))) := by
  constructor
  · exact forall_perm_find?_eq_iff distinct flow
  · exact forall_perm_answer_eq_iff path distinctFiles

/-- Two versions of a flow. -/
def twoVersions : List FlowDocument :=
  [⟨"x", "9", [], [], []⟩, ⟨"x", "10", [], [], []⟩]

/-- Files with these versions, in the array form of documents. -/
def twoFiles : List ListedFile :=
  [("x@9.json", .ok "[\"x\", \"9\", [], []]"), ("x@10.json", .ok "[\"x\", \"10\", [], []]")]

theorem answers_agree_of_twoVersions :
    Distinct twoVersions ∧ Distinct (twoFiles.filterMap (versionIn "x")) ∧
      (∀ first second : List FlowDocument, first.Perm twoVersions → second.Perm twoVersions →
        (empty.registerAll first).find? "x" .any = (empty.registerAll second).find? "x" .any) ∧
      ∀ first second : List ListedFile, first.Perm twoFiles → second.Perm twoFiles →
        ((Directory.mk "flows" (.ok first)).resolver.answer "x" .any).toOption =
          ((Directory.mk "flows" (.ok second)).resolver.answer "x" .any).toOption := by
  have distinct : Distinct twoVersions := by decide +kernel
  have distinctFiles : Distinct (twoFiles.filterMap (versionIn "x")) := by decide +kernel
  have highest : HasHighest (Library.versionsOf "x" twoVersions) := by decide +kernel
  have highestFile : HasHighest (versionsIn "x" twoFiles) := by decide +kernel
  have agree := answers_agree_iff twoVersions "flows" twoFiles "x" distinct distinctFiles
  exact ⟨distinct, distinctFiles, agree.1.2 highest, agree.2.2 fun _ => highestFile⟩

/-- Versions `9`, `10` and `10-rc` go round in a circle: the one that is registered last may be the
answer. -/
theorem exists_find?_ne_of_release_candidate :
    ¬ ∀ (documents first second : List FlowDocument) (flow : String), Distinct documents →
      first.Perm documents → second.Perm documents →
        (empty.registerAll first).find? flow .any =
          (empty.registerAll second).find? flow .any := by
  intro agree
  let version (text : String) : FlowDocument := ⟨"x", text, [], [], []⟩
  have rotated : ([version "10", version "10-rc"] ++ [version "9"]).Perm
      ([version "9"] ++ [version "10", version "10-rc"]) := List.perm_append_comm
  have same := agree _ _ _ "x" (by decide +kernel) (List.Perm.refl _) rotated
  have candidate : ((empty.registerAll [version "9", version "10", version "10-rc"]).find? "x"
      .any).map FlowDocument.version = some "10-rc" := by decide +kernel
  have nine : ((empty.registerAll [version "10", version "10-rc", version "9"]).find? "x"
      .any).map FlowDocument.version = some "9" := by decide +kernel
  have equal := candidate.symm.trans ((congrArg (Option.map FlowDocument.version) same).trans nine)
  exact absurd equal (by decide)

end DecisionFlow
