import DecisionFlow.Graph.Cycle
import Mathlib.Data.List.Chain
import Mathlib.Data.List.Nodup
import Mathlib.Logic.Relation

/-!
# The search finds a cycle if there is one

Between two turns of the search the positions in progress are those on the stack, each leads to the
one above it, and an edge that was followed leads to a position that is done or further up. A
position that is done leads to such positions only, and no path returns to it. Every turn keeps
this, so a search that comes to its end has shown that no path returns to any position, and a search
that stops early has found a path that does.
-/

set_option autoImplicit false

namespace DecisionFlow.Graph

open Relation

/-- An edge leads from one position to another. -/
def Leads (successors : List Successors) (position next : Nat) : Prop :=
  next ∈ targets successors position

/-- A path along edges that ends where it began and visits no other position twice. -/
def IsCycle (successors : List Successors) (path : List Nat) : Prop :=
  ∃ position inner, path = position :: inner ++ [position] ∧ (position :: inner).Nodup ∧
    path.IsChain (Leads successors)

variable {successors : List Successors}

theorem IsCycle.returns {path : List Nat} (cycle : IsCycle successors path) :
    ∃ position, TransGen (Leads successors) position position := by
  obtain ⟨position, inner, rfl, -, chain⟩ := cycle
  refine ⟨position, ?_⟩
  cases inner with
  | nil => exact .single (by simpa using chain)
  | cons next rest =>
      obtain ⟨leads, tail⟩ := List.isChain_cons_cons.1 chain
      have further : ReflTransGen (Leads successors) next position := by
        simpa using List.relationReflTransGen_of_exists_isChain_cons (rest ++ [position]) tail rfl
      exact .head' leads further

/-- A position without successors leads nowhere. -/
theorem lt_length_of_leads {position next : Nat} (leads : Leads successors position next) :
    position < successors.length := by
  by_contra outside
  simp [Leads, targets, List.getElem?_eq_none (Nat.le_of_not_lt outside)] at leads

namespace Search

/-! ## Marks -/

theorem lt_length_of_mark_ne_done {search : Search} {position : Nat}
    (open_ : search.mark position ≠ .done) : position < search.marks.length := by
  by_contra outside
  simp [mark, List.getElem?_eq_none (Nat.le_of_not_lt outside)] at open_

/-- A mark that is written shows at its position and at no other. -/
theorem mark_set {marks : List Mark} {position : Nat} (inside : position < marks.length)
    (written : Mark) (stack stack' : List Frame) (other : Nat) :
    mark ⟨marks.set position written, stack⟩ other =
      if position = other then written else mark ⟨marks, stack'⟩ other := by
  by_cases same : position = other
  · subst same
    simp [mark, inside]
  · simp [mark, same]

/-- No visited position is forgotten. -/
def Keeps (search after : Search) : Prop :=
  ∀ position, search.mark position ≠ .unvisited → after.mark position ≠ .unvisited

theorem Keeps.refl (search : Search) : Keeps search search := fun _ visited => visited

theorem Keeps.trans {search middle after : Search} (first : Keeps search middle)
    (second : Keeps middle after) : Keeps search after :=
  fun position visited => second position (first position visited)

theorem keeps_set (marks : List Mark) (position : Nat) {written : Mark}
    (visits : written ≠ .unvisited) (stack stack' : List Frame) :
    Keeps ⟨marks, stack⟩ ⟨marks.set position written, stack'⟩ := by
  intro other visited
  by_cases inside : position < marks.length
  · rw [mark_set inside written stack' stack]
    split
    · exact visits
    · exact visited
  · rwa [List.set_eq_of_length_le (Nat.le_of_not_lt inside)]

/-! ## The invariant -/

/-- Every edge from the stack has still to be followed, or it leads to a settled position or further
up. -/
def Followed (successors : List Successors) (settled : Nat → Prop) : List Frame → Prop
  | [] => True
  | frame :: below =>
    (∀ next, Leads successors frame.position next → next ∈ frame.pending ∨ settled next) ∧
      Followed successors (fun position => settled position ∨ position = frame.position) below

theorem Followed.mono {settled settled' : Nat → Prop}
    (more : ∀ position, settled position → settled' position) {stack : List Frame}
    (followed : Followed successors settled stack) : Followed successors settled' stack := by
  induction stack generalizing settled settled' with
  | nil => trivial
  | cons frame below ih =>
      obtain ⟨here, rest⟩ := followed
      exact ⟨fun next leads => (here next leads).imp_right (more next),
        ih (fun position => Or.imp_left (more position)) rest⟩

/-- The marks agree with the stack, which is a path, and nothing unfinished lies below a finished
position. -/
structure Consistent (successors : List Successors) (search : Search) : Prop where
  count : search.marks.length = successors.length
  /-- The positions in progress are those on the stack. -/
  inProgress : ∀ position,
    search.mark position = .inProgress ↔ position ∈ search.stack.map (·.position)
  distinct : (search.stack.map (·.position)).Nodup
  /-- Each position on the stack leads to the one above it. -/
  path : (search.stack.map (·.position)).IsChain fun inner outer => Leads successors outer inner
  pending : ∀ frame ∈ search.stack, ∀ next ∈ frame.pending, Leads successors frame.position next
  closed : ∀ position next, search.mark position = .done → Leads successors position next →
    search.mark next = .done
  acyclic : ∀ position, search.mark position = .done →
    ¬ TransGen (Leads successors) position position

/-- What holds between two turns of the search. -/
structure Sound (successors : List Successors) (search : Search) : Prop
    extends Consistent successors search where
  followed : Followed successors (fun position => search.mark position = .done) search.stack

/-- Nothing is visited before the first turn. -/
theorem sound_initial (successors : List Successors) :
    Sound successors (initial successors.length) := by
  have done_outside : ∀ position, (initial successors.length).mark position = .done →
      successors.length ≤ position := by
    intro position done
    by_contra inside
    simp [initial, mark, Nat.lt_of_not_le inside] at done
  refine ⟨⟨by simp [initial], ?_, by simp [initial], by simp [initial], by simp [initial], ?_, ?_⟩,
    trivial⟩
  · intro position
    by_cases inside : position < successors.length <;>
      simp [initial, mark, inside]
  · intro position next done leads
    exact absurd (lt_length_of_leads leads) (Nat.not_lt.2 (done_outside position done))
  · intro position done cycle
    obtain ⟨next, leads, -⟩ := TransGen.head'_iff.1 cycle
    exact absurd (lt_length_of_leads leads) (Nat.not_lt.2 (done_outside position done))

variable {marks : List Mark} {stack below : List Frame} {current next : Nat} {pending : List Nat}

theorem Consistent.done_of_below {search : Search} (consistent : Consistent successors search)
    {position other : Nat} (done : search.mark position = .done)
    (below : ReflTransGen (Leads successors) position other) : search.mark other = .done := by
  induction below with
  | refl => exact done
  | tail _ leads ih => exact consistent.closed _ _ ih leads

/-- Marks and stack stay consistent when an edge is taken from the innermost position. -/
theorem Consistent.take
    (consistent : Consistent successors ⟨marks, ⟨current, next :: pending⟩ :: below⟩) :
    Consistent successors ⟨marks, ⟨current, pending⟩ :: below⟩ where
  count := consistent.count
  inProgress := consistent.inProgress
  distinct := consistent.distinct
  path := consistent.path
  pending := by
    intro frame member target waiting
    rcases List.mem_cons.1 member with rfl | deeper
    · exact consistent.pending _ List.mem_cons_self target (List.mem_cons_of_mem _ waiting)
    · exact consistent.pending frame (List.mem_cons_of_mem _ deeper) target waiting
  closed := consistent.closed
  acyclic := consistent.acyclic

/-- When an edge is taken from the innermost position, all other followed edges lead to finished
positions or further up. -/
theorem Sound.followed_take
    (sound : Sound successors ⟨marks, ⟨current, next :: pending⟩ :: below⟩) :
    Followed successors
      (fun position => mark ⟨marks, ⟨current, pending⟩ :: below⟩ position = .done ∨ position = next)
      (⟨current, pending⟩ :: below) := by
  refine ⟨?_, sound.followed.2.mono fun position => Or.imp_left .inl⟩
  intro target leads
  rcases sound.followed.1 target leads with waiting | settled
  · rcases List.mem_cons.1 waiting with rfl | later
    · exact .inr (.inr rfl)
    · exact .inl later
  · exact .inr (.inl settled)

/-- An edge to a finished position needs no more attention. -/
theorem Sound.skip (sound : Sound successors ⟨marks, ⟨current, next :: pending⟩ :: below⟩)
    (done : mark ⟨marks, ⟨current, pending⟩ :: below⟩ next = .done) :
    Sound successors ⟨marks, ⟨current, pending⟩ :: below⟩ where
  toConsistent := sound.take
  followed := by
    refine Followed.mono ?_ sound.followed_take
    intro position
    rintro (settled | rfl)
    · exact settled
    · exact done

/-- A position that was not visited goes on top of the stack. -/
theorem Consistent.enter (consistent : Consistent successors ⟨marks, stack⟩)
    (unvisited : mark ⟨marks, stack⟩ next = .unvisited)
    (leads : ∀ frame ∈ stack.head?, Leads successors frame.position next)
    (followed : Followed successors
      (fun position => mark ⟨marks, stack⟩ position = .done ∨ position = next) stack) :
    Sound successors (Search.enter successors ⟨marks, stack⟩ next) := by
  have inside : next < marks.length := lt_length_of_mark_ne_done (by rw [unvisited]; simp)
  have marked := mark_set inside .inProgress
    (⟨next, (targets successors next).reverse⟩ :: stack) stack
  have fresh : next ∉ stack.map (·.position) := by
    intro member
    have busy := (consistent.inProgress next).2 member
    rw [unvisited] at busy
    exact absurd busy (by simp)
  have done_iff : ∀ position,
      mark (Search.enter successors ⟨marks, stack⟩ next) position = .done ↔
        mark ⟨marks, stack⟩ position = .done := by
    intro position
    rw [Search.enter, marked]
    by_cases same : next = position
    · subst same
      simp [unvisited]
    · simp [same]
  refine ⟨⟨by simpa [Search.enter] using consistent.count, ?_,
    List.nodup_cons.2 ⟨fresh, consistent.distinct⟩, ?_, ?_, ?_, ?_⟩, ?_, ?_⟩
  · intro position
    rw [Search.enter, marked]
    by_cases same : next = position
    · simp [same]
    · simpa [same, Ne.symm same] using consistent.inProgress position
  · cases stack with
    | nil => simp [Search.enter]
    | cons frame rest => exact List.isChain_cons_cons.2 ⟨leads frame rfl, consistent.path⟩
  · intro frame member target waiting
    rcases List.mem_cons.1 member with rfl | deeper
    · exact List.mem_reverse.1 waiting
    · exact consistent.pending frame deeper target waiting
  · intro position target done leads
    exact (done_iff target).2 (consistent.closed position target ((done_iff position).1 done) leads)
  · exact fun position done => consistent.acyclic position ((done_iff position).1 done)
  · exact fun target leads => .inl (List.mem_reverse.2 leads)
  · exact followed.mono fun position => Or.imp_left (done_iff position).2

/-- A position whose edges were all followed is done. -/
theorem Sound.leave (sound : Sound successors ⟨marks, ⟨current, []⟩ :: below⟩) :
    Sound successors ⟨marks.set current .done, below⟩ := by
  have busy := (sound.inProgress current).2 (by simp)
  have inside : current < marks.length := lt_length_of_mark_ne_done (by rw [busy]; simp)
  have marked := mark_set inside .done below (⟨current, []⟩ :: below)
  obtain ⟨notBelow, distinct⟩ := List.nodup_cons.1 sound.distinct
  have done_iff : ∀ position, mark ⟨marks.set current .done, below⟩ position = .done ↔
      mark ⟨marks, ⟨current, []⟩ :: below⟩ position = .done ∨ position = current := by
    intro position
    rw [marked]
    by_cases same : current = position <;> simp [same, eq_comm]
  have leads_done : ∀ target, Leads successors current target →
      mark ⟨marks, ⟨current, []⟩ :: below⟩ target = .done := fun target leads =>
    (sound.followed.1 target leads).resolve_left (by simp)
  refine ⟨⟨by simpa using sound.count, ?_, distinct, sound.path.tail, ?_, ?_, ?_⟩,
    sound.followed.2.mono fun position => (done_iff position).2⟩
  · intro position
    rw [marked]
    by_cases same : current = position
    · subst same
      simpa using notBelow
    · simpa [same, Ne.symm same] using sound.inProgress position
  · intro frame member
    exact sound.pending frame (List.mem_cons_of_mem _ member)
  · intro position target done leads
    rw [done_iff]
    rcases (done_iff position).1 done with before | rfl
    · exact .inl (sound.closed position target before leads)
    · exact .inl (leads_done target leads)
  · intro position done cycle
    rcases (done_iff position).1 done with before | rfl
    · exact sound.acyclic position before cycle
    · obtain ⟨target, leads, back⟩ := TransGen.head'_iff.1 cycle
      have finished := sound.done_of_below (leads_done target leads) back
      rw [busy] at finished
      exact absurd finished (by simp)

/-- An edge back to the stack closes a cycle. -/
theorem isCycle_closedPath {stack : List Frame} {current next : Nat}
    (distinct : (stack.map (·.position)).Nodup)
    (path : (stack.map (·.position)).IsChain fun inner outer => Leads successors outer inner)
    (top : (stack.map (·.position)).head? = some current)
    (leads : Leads successors current next) (member : next ∈ stack.map (·.position)) :
    IsCycle successors (closedPath stack next) := by
  unfold closedPath
  dsimp only
  generalize stack.map (·.position) = positions at *
  obtain ⟨above, deeper, rfl, -⟩ := List.eq_append_cons_of_mem member
  -- The position is on the stack and only once, so the path is cut off at this place.
  have outside : next ∉ deeper := (List.nodup_cons.1 distinct.of_append_right).1
  have before : deeper.reverse.findIdx? (· == next) = none := by
    rw [List.findIdx?_eq_none_iff]
    intro position inside
    exact beq_false_of_ne (ne_of_mem_of_not_mem (List.mem_reverse.1 inside) outside)
  have cut : (above ++ next :: deeper).reverse.drop
      (((above ++ next :: deeper).reverse.findIdx? (· == next)).getD 0) =
        next :: above.reverse := by
    simp [List.findIdx?_append, List.findIdx?_cons, before]
  rw [cut]
  refine ⟨next, above.reverse, rfl, ?_, ?_⟩
  · have apart : (above ++ [next]).Nodup :=
      distinct.sublist ((List.sublist_append_left [next] deeper).append_left above)
    simpa using List.nodup_reverse.2 apart
  · have upward : (next :: (above ++ [next])).IsChain fun inner outer =>
        Leads successors outer inner := by
      have segment : (above ++ [next]).IsChain fun inner outer => Leads successors outer inner :=
        (by simpa using path : ((above ++ [next]) ++ deeper).IsChain _).left_of_append
      cases above with
      | nil =>
          obtain rfl : next = current := by simpa using top
          exact List.isChain_cons_cons.2 ⟨leads, segment⟩
      | cons highest rest =>
          obtain rfl : highest = current := by simpa using top
          exact List.isChain_cons_cons.2 ⟨leads, segment⟩
    simpa using List.isChain_reverse.2 upward

/-! ## Runs of the search -/

variable {search after : Search}

/-- A turn keeps the invariant and the visited positions. -/
theorem Sound.turn (sound : Sound successors search)
    (taken : search.turn successors = .ok after) : Sound successors after ∧ Keeps search after := by
  obtain ⟨marks, stack⟩ := search
  match stack with
  | [] =>
      obtain rfl : _ = after := by simpa [Search.turn] using taken
      exact ⟨sound, .refl _⟩
  | ⟨current, []⟩ :: below =>
      obtain rfl : _ = after := by simpa [Search.turn] using taken
      exact ⟨sound.leave, keeps_set marks current (by simp) _ below⟩
  | ⟨current, next :: pending⟩ :: below =>
      simp only [Search.turn] at taken
      cases marked : mark ⟨marks, ⟨current, next :: pending⟩ :: below⟩ next with
      | unvisited =>
          obtain rfl : _ = after := by simpa [marked] using taken
          have leads := sound.pending _ List.mem_cons_self next List.mem_cons_self
          exact ⟨sound.take.enter marked (by simpa using leads) sound.followed_take,
            keeps_set marks next (by simp) _ _⟩
      | inProgress => simp [marked] at taken
      | done =>
          obtain rfl : _ = after := by simpa [marked] using taken
          exact ⟨sound.skip marked, fun _ visited => visited⟩

/-- A turn that fails has found a cycle. -/
theorem Sound.isCycle_of_turn (sound : Sound successors search) {cycle : List Nat}
    (failed : search.turn successors = .error cycle) : IsCycle successors cycle := by
  obtain ⟨marks, stack⟩ := search
  match stack with
  | [] => simp [Search.turn] at failed
  | ⟨current, []⟩ :: below => simp [Search.turn] at failed
  | ⟨current, next :: pending⟩ :: below =>
      simp only [Search.turn] at failed
      cases marked : mark ⟨marks, ⟨current, next :: pending⟩ :: below⟩ next with
      | unvisited => simp [marked] at failed
      | done => simp [marked] at failed
      | inProgress =>
          obtain rfl : _ = cycle := by simpa [marked] using failed
          exact isCycle_closedPath sound.distinct sound.path rfl
            (sound.pending _ List.mem_cons_self next List.mem_cons_self)
            ((sound.inProgress next).1 marked)

/-- How a part of the search ends: with an empty stack and nothing forgotten, or with a cycle. -/
def Ends (successors : List Successors) (search : Search) : Except (List Nat) Search → Prop
  | .ok after => Sound successors after ∧ Keeps search after ∧ after.stack = []
  | .error cycle => IsCycle successors cycle

theorem Ends.after_keeps {middle : Search} (kept : Keeps search middle)
    {outcome : Except (List Nat) Search} (ends : Ends successors middle outcome) :
    Ends successors search outcome := by
  cases outcome with
  | ok after => exact ⟨ends.1, kept.trans ends.2.1, ends.2.2⟩
  | error cycle => exact ends

theorem Sound.finish (sound : Sound successors search) :
    Ends successors search (search.finish successors) := by
  fun_induction Search.finish successors search with
  | case1 search busy cycle failed => exact sound.isCycle_of_turn failed
  | case2 search busy after taken ih =>
      obtain ⟨soundAfter, kept⟩ := sound.turn taken
      exact (ih soundAfter).after_keeps kept
  | case3 search idle => exact ⟨sound, .refl search, by simpa using idle⟩

/-- Exploring from a root visits it. -/
theorem Sound.explore (sound : Sound successors search) (idle : search.stack = []) (root : Nat) :
    Ends successors search (search.explore successors root) ∧
      ∀ after, search.explore successors root = .ok after → after.mark root ≠ .unvisited := by
  obtain ⟨marks, stack⟩ := search
  obtain rfl : stack = [] := idle
  unfold Search.explore
  split
  case isTrue unvisited =>
    have entered := sound.toConsistent.enter unvisited (by simp) trivial
    have kept : Keeps ⟨marks, []⟩ (Search.enter successors ⟨marks, []⟩ root) :=
      keeps_set marks root (by simp) _ _
    refine ⟨entered.finish.after_keeps kept, ?_⟩
    intro after finished
    have ends := entered.finish
    rw [finished] at ends
    have busy := (entered.inProgress root).2 (by simp [Search.enter])
    exact ends.2.1 root (by rw [busy]; simp)
  case isFalse visited =>
    refine ⟨⟨sound, .refl _, rfl⟩, ?_⟩
    rintro after ⟨⟩
    exact visited

/-- Exploring from several roots visits them all. -/
theorem Sound.explore_roots (roots : List Nat) (sound : Sound successors search)
    (idle : search.stack = []) :
    Ends successors search (roots.foldlM (Search.explore successors) search) ∧
      ∀ after, roots.foldlM (Search.explore successors) search = .ok after →
        ∀ root ∈ roots, after.mark root ≠ .unvisited := by
  induction roots generalizing search with
  | nil => exact ⟨⟨sound, .refl search, idle⟩, by simp⟩
  | cons root rest ih =>
      obtain ⟨ends, visits⟩ := sound.explore idle root
      rw [List.foldlM_cons]
      cases explored : search.explore successors root with
      | error cycle =>
          rw [explored] at ends
          exact ⟨ends, fun after done => by cases done⟩
      | ok middle =>
          rw [explored] at ends
          obtain ⟨endsRest, visitsRest⟩ := ih ends.1 ends.2.2
          refine ⟨endsRest.after_keeps ends.2.1, ?_⟩
          intro after done other member
          rcases List.mem_cons.1 member with rfl | later
          · have kept : Ends successors middle (.ok after) := done ▸ endsRest
            exact kept.2.1 other (visits middle explored)
          · exact visitsRest after done other later

end Search

/-- A reported cycle is one. -/
theorem isCycle_of_findCycle? {path : List Nat} (found : findCycle? successors = some path) :
    IsCycle successors path := by
  have ends := (Search.sound_initial successors).explore_roots (List.range successors.length) rfl
  unfold findCycle? at found
  split at found
  · cases found
  next cycle failed =>
    obtain rfl : cycle = path := by simpa using found
    rw [failed] at ends
    exact ends.1

/-- **The search reports no cycle exactly if no path returns to where it began.** -/
theorem findCycle?_eq_none_iff :
    findCycle? successors = none ↔
      ∀ position, ¬ TransGen (Leads successors) position position := by
  constructor
  · intro nothing position cycle
    have ends := (Search.sound_initial successors).explore_roots (List.range successors.length) rfl
    unfold findCycle? at nothing
    split at nothing
    next after finished =>
      rw [finished] at ends
      obtain ⟨⟨sound, -, idle⟩, visits⟩ := ends
      obtain ⟨next, leads, -⟩ := TransGen.head'_iff.1 cycle
      have visited := visits after rfl position (by simpa using lt_length_of_leads leads)
      refine sound.acyclic position ?_ cycle
      have left : after.mark position ≠ .inProgress := by
        rw [Ne, sound.inProgress, idle]
        simp
      cases marked : after.mark position <;> simp_all
    · cases nothing
  · intro acyclic
    by_contra some
    obtain ⟨path, found⟩ := Option.ne_none_iff_exists'.1 some
    obtain ⟨position, cycle⟩ := (isCycle_of_findCycle? found).returns
    exact acyclic position cycle

end DecisionFlow.Graph
