import Mathlib.Data.List.Forall2
import Mathlib.Data.List.Nodup
import Scrutiny.Pattern.Matching

/-! # Threads of a match

Matching keeps the first thread at each place. What a pattern makes of several threads is what it
makes of each of them alone, one after the other, with later threads at a place dropped
(`run_eq_distinct`); so the preferred thread can be read off the list of everything that is tried.
Threads that stand at the same places are treated alike (`run_tied`).
-/

namespace Scrutiny.Pattern

namespace Thread

/-- The places of threads, in order. -/
def places (threads : List Thread) : List Nat :=
  threads.map place

@[simp] theorem places_nil : places [] = [] := rfl

@[simp] theorem places_cons (thread : Thread) (threads : List Thread) :
    places (thread :: threads) = thread.place :: places threads := rfl

@[simp] theorem places_append (left right : List Thread) :
    places (left ++ right) = places left ++ places right :=
  List.map_append

/-- A place is among the places of threads if some thread stands there. -/
theorem mem_places {threads : List Thread} {place : Nat} :
    place ∈ places threads ↔ ∃ thread ∈ threads, thread.place = place :=
  List.mem_map

/-- The threads that are first at a place which is not among some seen before. -/
def fresh : List Nat → List Thread → List Thread
  | _, [] => []
  | seen, thread :: threads =>
    if thread.place ∈ seen then fresh seen threads
    else thread :: fresh (thread.place :: seen) threads

/-- A thread at a place that has been seen is passed over. -/
theorem fresh_cons_of_mem {seen : List Nat} {thread : Thread} (threads : List Thread)
    (member : thread.place ∈ seen) : fresh seen (thread :: threads) = fresh seen threads := by
  simp only [fresh, member, ↓reduceIte]

/-- A thread at a new place is kept, and its place counts as seen from there on. -/
theorem fresh_cons_of_notMem {seen : List Nat} {thread : Thread} (threads : List Thread)
    (absent : thread.place ∉ seen) :
    fresh seen (thread :: threads) = thread :: fresh (thread.place :: seen) threads := by
  simp only [fresh, absent, ↓reduceIte]

/-- Only which places were seen counts. -/
theorem fresh_congr (threads : List Thread) {seen other : List Nat}
    (same : ∀ place, place ∈ seen ↔ place ∈ other) : fresh seen threads = fresh other threads := by
  induction threads generalizing seen other with
  | nil => rfl
  | cons thread threads ih =>
    by_cases member : thread.place ∈ seen
    · rw [fresh_cons_of_mem _ member, fresh_cons_of_mem _ ((same _).mp member), ih same]
    · rw [fresh_cons_of_notMem _ member,
        fresh_cons_of_notMem _ fun found => member ((same _).mpr found)]
      exact congrArg (thread :: ·) (ih fun place => by simp only [List.mem_cons, same])

/-- Keeping the first thread at each place, as the matcher does it by a fold, is going through the
list with the places seen so far. -/
theorem foldl_distinct (kept threads : List Thread) :
    threads.foldl
        (fun kept thread =>
          if kept.any (fun other => other.place == thread.place) then kept else kept ++ [thread])
        kept =
      kept ++ fresh (places kept) threads := by
  induction threads generalizing kept with
  | nil => simp only [List.foldl_nil, fresh, List.append_nil]
  | cons thread threads ih =>
    rw [List.foldl_cons]
    have decided : kept.any (fun other => other.place == thread.place) =
        decide (thread.place ∈ places kept) := by
      rw [Bool.eq_iff_iff]
      simp only [List.any_eq_true, beq_iff_eq, decide_eq_true_eq, mem_places]
    rw [decided]
    by_cases member : thread.place ∈ places kept
    · simp only [member, decide_true, ↓reduceIte]
      rw [ih, fresh_cons_of_mem _ member]
    · simp only [member, decide_false, Bool.false_eq_true, ↓reduceIte]
      rw [ih, fresh_cons_of_notMem _ member, List.append_assoc, List.singleton_append]
      rw [fresh_congr threads fun place => ?_]
      simp only [places_append, places_cons, places_nil, List.mem_append, List.mem_cons,
        List.not_mem_nil, or_false]
      exact or_comm

/-- Nothing has been seen before the first thread. -/
theorem distinct_eq_fresh (threads : List Thread) : distinct threads = fresh [] threads := by
  unfold distinct
  rw [foldl_distinct]
  rfl

/-- Every place keeps a thread. -/
theorem mem_places_fresh {seen : List Nat} {threads : List Thread} {place : Nat} :
    place ∈ places (fresh seen threads) ↔ place ∈ places threads ∧ place ∉ seen := by
  induction threads generalizing seen with
  | nil => simp only [fresh, places_nil, List.not_mem_nil, false_and]
  | cons thread threads ih =>
    by_cases before : thread.place ∈ seen
    · rw [fresh_cons_of_mem _ before, ih, places_cons, List.mem_cons]
      refine ⟨fun found => ⟨.inr found.1, found.2⟩, fun found => ⟨?_, found.2⟩⟩
      exact found.1.resolve_left fun same => found.2 (same ▸ before)
    · rw [fresh_cons_of_notMem _ before, places_cons, places_cons, List.mem_cons, List.mem_cons,
        ih, List.mem_cons]
      by_cases same : place = thread.place
      · simp only [same, true_or, before, not_false_eq_true, and_self]
      · simp only [same, false_or]

theorem nodup_places_fresh (seen : List Nat) (threads : List Thread) :
    (places (fresh seen threads)).Nodup := by
  induction threads generalizing seen with
  | nil => exact List.nodup_nil
  | cons thread threads ih =>
    by_cases before : thread.place ∈ seen
    · rw [fresh_cons_of_mem _ before]
      exact ih seen
    · rw [fresh_cons_of_notMem _ before, places_cons, List.nodup_cons]
      exact ⟨fun found => (mem_places_fresh.mp found).2 List.mem_cons_self, ih _⟩

/-- In what follows on other threads, the places of those count as seen. -/
theorem fresh_append (seen : List Nat) (left right : List Thread) :
    fresh seen (left ++ right) = fresh seen left ++ fresh (places left ++ seen) right := by
  induction left generalizing seen with
  | nil => rfl
  | cons thread left ih =>
    rw [List.cons_append, places_cons, List.cons_append]
    by_cases before : thread.place ∈ seen
    · rw [fresh_cons_of_mem _ before, fresh_cons_of_mem _ before, ih]
      rw [fresh_congr right fun place => ?_]
      simp only [List.mem_append, List.mem_cons]
      constructor
      · exact .inr
      · rintro (rfl | found)
        · exact .inr before
        · exact found
    · rw [fresh_cons_of_notMem _ before, fresh_cons_of_notMem _ before, ih, List.cons_append]
      rw [fresh_congr right fun place => ?_]
      simp only [List.mem_append, List.mem_cons]
      exact or_left_comm

/-- Nothing is kept where all places have been seen before. -/
theorem fresh_eq_nil {seen : List Nat} {threads : List Thread}
    (known : ∀ place ∈ places threads, place ∈ seen) : fresh seen threads = [] := by
  induction threads with
  | nil => rfl
  | cons thread threads ih =>
    rw [fresh_cons_of_mem _ (known _ List.mem_cons_self)]
    exact ih fun place found => known place (List.mem_cons_of_mem _ found)

/-- Threads at different places that were not seen before are all kept. -/
theorem fresh_eq_self {seen : List Nat} {threads : List Thread} (apart : (places threads).Nodup)
    (unseen : ∀ place ∈ places threads, place ∉ seen) : fresh seen threads = threads := by
  induction threads generalizing seen with
  | nil => rfl
  | cons thread threads ih =>
    rw [places_cons, List.nodup_cons] at apart
    rw [fresh_cons_of_notMem _ (unseen _ List.mem_cons_self), ih apart.2]
    intro place found again
    rcases List.mem_cons.mp again with rfl | before
    · exact apart.1 found
    · exact unseen place (List.mem_cons_of_mem _ found) before

/-- Dropping threads early makes no difference if they are dropped later anyway. -/
theorem fresh_fresh {seen before : List Nat} (threads : List Thread)
    (within : ∀ place ∈ before, place ∈ seen) :
    fresh seen (fresh before threads) = fresh seen threads := by
  induction threads generalizing seen before with
  | nil => rfl
  | cons thread threads ih =>
    by_cases known : thread.place ∈ before
    · rw [fresh_cons_of_mem _ known, fresh_cons_of_mem _ (within _ known), ih within]
    · rw [fresh_cons_of_notMem _ known]
      by_cases late : thread.place ∈ seen
      · rw [fresh_cons_of_mem _ late, fresh_cons_of_mem _ late]
        refine ih fun place found => ?_
        rcases List.mem_cons.mp found with rfl | found
        · exact late
        · exact within place found
      · rw [fresh_cons_of_notMem _ late, fresh_cons_of_notMem _ late]
        rw [ih fun place found => ?_]
        rcases List.mem_cons.mp found with rfl | found
        · exact List.mem_cons_self
        · exact List.mem_cons_of_mem _ (within place found)

end Thread

/-- A function that sends threads at the same place to the same places. -/
def Placewise (follow : Thread → List Thread) : Prop :=
  ∀ left right : Thread, left.place = right.place →
    Thread.places (follow left) = Thread.places (follow right)

namespace Thread

/-- Threads that are dropped before a step need not be followed. -/
theorem fresh_flatMap_fresh {follow : Thread → List Thread} (placewise : Placewise follow)
    (threads : List Thread) {seen before : List Nat}
    (known : ∀ thread ∈ threads, thread.place ∈ before →
      ∀ place ∈ places (follow thread), place ∈ seen) :
    fresh seen ((fresh before threads).flatMap follow) = fresh seen (threads.flatMap follow) := by
  induction threads generalizing seen before with
  | nil => rfl
  | cons thread threads ih =>
    have rest : ∀ other ∈ threads, other.place ∈ before →
        ∀ place ∈ places (follow other), place ∈ seen :=
      fun other member => known other (List.mem_cons_of_mem _ member)
    rw [List.flatMap_cons, fresh_append]
    by_cases late : thread.place ∈ before
    · have covered := known thread List.mem_cons_self late
      rw [fresh_cons_of_mem _ late, ih rest, fresh_eq_nil covered, List.nil_append]
      refine fresh_congr _ fun place => ?_
      rw [List.mem_append]
      exact ⟨.inr, fun found => found.elim (covered place) id⟩
    · rw [fresh_cons_of_notMem _ late, List.flatMap_cons, fresh_append, ih]
      intro other member stands place found
      rw [List.mem_append]
      rcases List.mem_cons.mp stands with same | earlier
      · exact .inl (placewise other thread same ▸ found)
      · exact .inr (rest other member earlier place found)

/-- Threads that are dropped within a step need not be kept. -/
theorem fresh_flatMap_distinct (follow : Thread → List Thread) (threads : List Thread)
    (seen : List Nat) :
    fresh seen (threads.flatMap fun thread => distinct (follow thread)) =
      fresh seen (threads.flatMap follow) := by
  induction threads generalizing seen with
  | nil => rfl
  | cons thread threads ih =>
    rw [List.flatMap_cons, List.flatMap_cons, fresh_append, fresh_append, ih, distinct_eq_fresh,
      fresh_fresh _ fun place found => absurd found List.not_mem_nil]
    refine congrArg (_ ++ ·) (fresh_congr _ fun place => ?_)
    simp only [List.mem_append, mem_places_fresh, List.not_mem_nil, not_false_eq_true, and_true]

/-- Threads that are dropped add nothing to what follows on the threads. -/
theorem distinct_flatMap_distinct {follow : Thread → List Thread} (placewise : Placewise follow)
    (threads : List Thread) :
    distinct ((distinct threads).flatMap follow) = distinct (threads.flatMap follow) := by
  rw [distinct_eq_fresh, distinct_eq_fresh, distinct_eq_fresh]
  exact fresh_flatMap_fresh placewise threads fun _ _ found => absurd found List.not_mem_nil

/-- Dropping threads early, after each one that is followed, makes no difference in the end. -/
theorem distinct_flatMap_follow (follow : Thread → List Thread) (threads : List Thread) :
    distinct (threads.flatMap fun thread => distinct (follow thread)) =
      distinct (threads.flatMap follow) := by
  rw [distinct_eq_fresh, distinct_eq_fresh]
  exact fresh_flatMap_distinct follow threads []

theorem distinct_eq_self {threads : List Thread} (apart : (places threads).Nodup) :
    distinct threads = threads := by
  rw [distinct_eq_fresh]
  exact fresh_eq_self apart fun _ _ => List.not_mem_nil

/-- The threads that a match goes on with stand at different places. -/
theorem nodup_places_distinct (threads : List Thread) : (places (distinct threads)).Nodup := by
  rw [distinct_eq_fresh]
  exact nodup_places_fresh [] threads

theorem mem_places_distinct {threads : List Thread} {place : Nat} :
    place ∈ places (distinct threads) ↔ place ∈ places threads := by
  rw [distinct_eq_fresh, mem_places_fresh]
  exact and_iff_left List.not_mem_nil

/-- The preferred thread is never dropped. -/
theorem head?_distinct (threads : List Thread) : (distinct threads).head? = threads.head? := by
  rw [distinct_eq_fresh]
  cases threads with
  | nil => rfl
  | cons thread threads => rw [fresh_cons_of_notMem _ List.not_mem_nil]; rfl

end Thread

section Rounds

variable {σ : Type}

theorem rounds_nil (follow : List σ → Thread → List σ × List Thread) (seen : List σ) :
    rounds follow seen [] = (seen, []) := rfl

/-- Rounds over several threads are a fold that carries what has been seen and gathers what is
found. -/
theorem foldl_rounds (follow : List σ → Thread → List σ × List Thread) (threads : List Thread)
    (seen : List σ) (found : List Thread) :
    threads.foldl
        (fun state thread => ((follow state.1 thread).1, state.2 ++ (follow state.1 thread).2))
        (seen, found) =
      ((rounds follow seen threads).1, found ++ (rounds follow seen threads).2) := by
  induction threads generalizing seen found with
  | nil => simp only [List.foldl_nil, rounds_nil, List.append_nil]
  | cons thread threads ih =>
    unfold rounds
    rw [List.foldl_cons, List.foldl_cons, ih, ih, List.nil_append, List.append_assoc]

/-- The threads of a list are followed one after the other. -/
theorem rounds_cons (follow : List σ → Thread → List σ × List Thread) (seen : List σ)
    (thread : Thread) (threads : List Thread) :
    rounds follow seen (thread :: threads) =
      ((rounds follow (follow seen thread).1 threads).1,
        (follow seen thread).2 ++ (rounds follow (follow seen thread).1 threads).2) := by
  conv_lhs => unfold rounds
  rw [List.foldl_cons]
  exact foldl_rounds follow threads _ _

end Rounds

section Repetition

variable {step : Thread → List Thread} {greedy : Bool} {thread : Thread}

/-- A repetition that comes back to a place it has been at finds nothing there. -/
theorem again_of_mem {origin bound : Nat} {seen : List Nat} (member : thread.place ∈ seen) :
    again step greedy origin (bound + 1) seen thread = (seen, []) := by
  simp only [again, List.contains_iff_mem.mpr member, ↓reduceIte]

/-- A repetition that comes back to where it started stops there without a further round. -/
theorem again_origin {origin bound : Nat} {seen : List Nat} (absent : thread.place ∉ seen)
    (home : thread.place = origin) :
    again step greedy origin (bound + 1) seen thread =
      (thread.place :: seen, prefer greedy thread []) := by
  have unseen : ¬ seen.contains thread.place = true := fun found =>
    absent (List.contains_iff_mem.mp found)
  simp only [again, if_neg unseen, if_pos home]

/-- At a new place a repetition stops or goes on from each thread of one more round, as it prefers.
-/
theorem again_away {origin bound : Nat} {seen : List Nat} (absent : thread.place ∉ seen)
    (away : thread.place ≠ origin) :
    again step greedy origin (bound + 1) seen thread =
      let next := rounds (again step greedy origin bound) (thread.place :: seen) (step thread)
      (next.1, prefer greedy thread next.2) := by
  have unseen : ¬ seen.contains thread.place = true := fun found =>
    absent (List.contains_iff_mem.mp found)
  simp only [again, if_neg unseen, if_neg away]

/-- A bounded repetition does not come twice to a place with as many rounds left. -/
theorem upTo_of_mem {left : Nat} {seen : List (Nat × Nat)} (member : (left, thread.place) ∈ seen) :
    upTo step greedy (left + 1) seen thread = (seen, []) := by
  simp only [upTo, List.contains_iff_mem.mpr member, ↓reduceIte]

/-- With rounds left, a bounded repetition stops or goes on from each thread of one more round. -/
theorem upTo_of_notMem {left : Nat} {seen : List (Nat × Nat)}
    (absent : (left, thread.place) ∉ seen) :
    upTo step greedy (left + 1) seen thread =
      let next := rounds (upTo step greedy left) ((left, thread.place) :: seen) (step thread)
      (next.1, prefer greedy thread next.2) := by
  have unseen : ¬ seen.contains (left, thread.place) = true := fun found =>
    absent (List.contains_iff_mem.mp found)
  simp only [upTo, if_neg unseen]

end Repetition

/-- A relation between threads at the same place that lasts while they move together. -/
structure Tied (R : Thread → Thread → Prop) : Prop where
  place : ∀ {left right : Thread}, R left right → left.place = right.place
  move : ∀ {left right : Thread} (target : Nat), R left right →
    R { left with place := target } { right with place := target }

section Tied

variable {R : Thread → Thread → Prop} {σ : Type}

/-- Steps that lead tied threads to tied threads. -/
def TiedSteps (R : Thread → Thread → Prop) (step other : Thread → List Thread) : Prop :=
  ∀ left right : Thread, R left right → List.Forall₂ R (step left) (other right)

/-- Ways to follow a thread that lead tied threads to tied threads and see the same. -/
def TiedFollow (R : Thread → Thread → Prop)
    (follow other : List σ → Thread → List σ × List Thread) : Prop :=
  ∀ (seen : List σ) (left right : Thread), R left right →
    (follow seen left).1 = (other seen right).1 ∧
      List.Forall₂ R (follow seen left).2 (other seen right).2

theorem Tied.fresh (tied : Tied R) (seen : List Nat) {left right : List Thread}
    (related : List.Forall₂ R left right) :
    List.Forall₂ R (Thread.fresh seen left) (Thread.fresh seen right) := by
  induction related generalizing seen with
  | nil => exact .nil
  | @cons first other left right head _ ih =>
    have same := tied.place head
    by_cases before : first.place ∈ seen
    · rw [Thread.fresh_cons_of_mem _ before, Thread.fresh_cons_of_mem _ (same ▸ before)]
      exact ih seen
    · rw [Thread.fresh_cons_of_notMem _ before, Thread.fresh_cons_of_notMem _ (same ▸ before),
        ← same]
      exact .cons head (ih _)

/-- Tied threads are tied still when only the first at each place is kept. -/
theorem Tied.distinct (tied : Tied R) {left right : List Thread}
    (related : List.Forall₂ R left right) :
    List.Forall₂ R (Thread.distinct left) (Thread.distinct right) := by
  rw [Thread.distinct_eq_fresh, Thread.distinct_eq_fresh]
  exact tied.fresh [] related

/-- Steps that tie what they make of tied threads do so for lists of them. -/
theorem forall₂_flatMap {step other : Thread → List Thread} (steps : TiedSteps R step other)
    {left right : List Thread} (related : List.Forall₂ R left right) :
    List.Forall₂ R (left.flatMap step) (right.flatMap other) := by
  induction related with
  | nil => exact .nil
  | cons head _ ih =>
    rw [List.flatMap_cons, List.flatMap_cons]
    exact List.rel_append (steps _ _ head) ih

/-- The preference between stopping and going on is the same for tied threads. -/
theorem forall₂_prefer (greedy : Bool) {stop other : Thread} {further more : List Thread}
    (stops : R stop other) (related : List.Forall₂ R further more) :
    List.Forall₂ R (prefer greedy stop further) (prefer greedy other more) := by
  unfold prefer
  cases greedy with
  | true => exact List.rel_append related (.cons stops .nil)
  | false => exact .cons stops related

/-- Rounds over tied threads see the same and find tied threads. -/
theorem TiedFollow.rounds {follow other : List σ → Thread → List σ × List Thread}
    (follows : TiedFollow R follow other) {left right : List Thread}
    (related : List.Forall₂ R left right) (seen : List σ) :
    (rounds follow seen left).1 = (Pattern.rounds other seen right).1 ∧
      List.Forall₂ R (Pattern.rounds follow seen left).2 (Pattern.rounds other seen right).2 := by
  induction related generalizing seen with
  | nil => exact ⟨rfl, .nil⟩
  | cons head _ ih =>
    rw [rounds_cons, rounds_cons]
    obtain ⟨same, found⟩ := follows seen _ _ head
    rw [same]
    exact ⟨(ih _).1, List.rel_append found (ih _).2⟩

/-- A repetition treats tied threads alike if its rounds do. -/
theorem TiedSteps.again (tied : Tied R) {step other : Thread → List Thread}
    (steps : TiedSteps R step other) (greedy : Bool) (origin bound : Nat) :
    TiedFollow R (again step greedy origin bound) (Pattern.again other greedy origin bound) := by
  induction bound with
  | zero => exact fun seen left right head => ⟨rfl, .cons head .nil⟩
  | succ bound ih =>
    intro seen left right head
    have same := tied.place head
    by_cases before : left.place ∈ seen
    · rw [again_of_mem before, again_of_mem (same ▸ before)]
      exact ⟨rfl, .nil⟩
    · have unseen : right.place ∉ seen := same ▸ before
      by_cases home : left.place = origin
      · rw [again_origin before home, again_origin unseen (same ▸ home)]
        exact ⟨congrArg (· :: seen) same, forall₂_prefer greedy head .nil⟩
      · rw [again_away before home, again_away unseen (same ▸ home), same]
        obtain ⟨visited, found⟩ := ih.rounds (steps _ _ head) (right.place :: seen)
        exact ⟨visited, forall₂_prefer greedy head found⟩

theorem TiedSteps.oneOrMore (tied : Tied R) {step other : Thread → List Thread}
    (steps : TiedSteps R step other) (greedy : Bool) (bound : Nat) :
    TiedSteps R (oneOrMore step greedy bound) (Pattern.oneOrMore other greedy bound) := by
  intro left right head
  unfold Pattern.oneOrMore
  rw [← tied.place head]
  exact ((steps.again tied greedy left.place bound).rounds (steps _ _ head) []).2

theorem TiedSteps.upTo (tied : Tied R) {step other : Thread → List Thread}
    (steps : TiedSteps R step other) (greedy : Bool) (left : Nat) :
    TiedFollow R (upTo step greedy left) (Pattern.upTo other greedy left) := by
  induction left with
  | zero => exact fun seen left right head => ⟨rfl, .cons head .nil⟩
  | succ left ih =>
    intro seen first second head
    have same := tied.place head
    by_cases before : (left, first.place) ∈ seen
    · rw [upTo_of_mem before, upTo_of_mem (same ▸ before)]
      exact ⟨rfl, .nil⟩
    · rw [upTo_of_notMem before, upTo_of_notMem (same ▸ before), same]
      obtain ⟨visited, found⟩ := ih.rounds (steps _ _ head) ((left, second.place) :: seen)
      exact ⟨visited, forall₂_prefer greedy head found⟩

theorem forall₂_times {follow other : List Thread → List Thread}
    (follows : ∀ {left right : List Thread}, List.Forall₂ R left right →
      List.Forall₂ R (follow left) (other right)) (count : Nat) {left right : List Thread}
    (related : List.Forall₂ R left right) :
    List.Forall₂ R (times follow count left) (times other count right) := by
  induction count generalizing left right with
  | zero => exact related
  | succ count ih => exact ih (follows related)

end Tied

/-- No group of the pattern is ever entered. -/
def Groupless : Pattern → Prop
  | empty => True
  | one _ => True
  | assertion _ => True
  | group _ _ => False
  | seq first second => first.Groupless ∧ second.Groupless
  | alt first second => first.Groupless ∧ second.Groupless
  | rep least most _ body => least = 0 ∧ most = some 0 ∨ body.Groupless

/-- Threads that stay tied through a pattern stay tied through its repetition. -/
theorem run_rep_tied {R : Thread → Thread → Prop} (tied : Tied R) {text : Array Char}
    {body : Pattern} (inner : ∀ {left right : List Thread}, List.Forall₂ R left right →
      List.Forall₂ R (body.run text left) (body.run text right))
    (least : Nat) (most : Option Nat) (greedy : Bool) {left right : List Thread}
    (related : List.Forall₂ R left right) :
    List.Forall₂ R ((rep least most greedy body).run text left)
      ((rep least most greedy body).run text right) := by
  have steps : TiedSteps R (fun thread => body.run text [thread])
      (fun thread => body.run text [thread]) :=
    fun first second head => inner (.cons head .nil)
  cases most with
  | some most =>
    refine tied.distinct (forall₂_flatMap ?_ (forall₂_times inner least related))
    exact fun first second head => (steps.upTo tied greedy (most - least) [] _ _ head).2
  | none =>
    cases least with
    | zero =>
      refine tied.distinct (forall₂_flatMap ?_ related)
      exact fun first second head =>
        forall₂_prefer greedy head (steps.oneOrMore tied greedy _ _ _ head)
    | succ least =>
      exact tied.distinct (forall₂_flatMap (steps.oneOrMore tied greedy _)
        (forall₂_times inner least related))

/-- Threads that are tied stay tied through a pattern, if closing a group leaves them tied or there
is no group to close. -/
theorem run_tied {R : Thread → Thread → Prop} (tied : Tied R) (text : Array Char)
    (pattern : Pattern)
    (closes : pattern.Groupless ∨ ∀ (index first : Nat) {left right : Thread}, R left right →
      R (left.close index first) (right.close index first))
    {left right : List Thread} (related : List.Forall₂ R left right) :
    List.Forall₂ R (pattern.run text left) (pattern.run text right) := by
  induction pattern generalizing left right with
  | empty => exact related
  | one set =>
    refine List.rel_filterMap ?_ related
    intro first second head
    beta_reduce
    rw [← tied.place head]
    cases text[first.place]? with
    | none => exact .none
    | some c =>
      by_cases member : set.has c = true
      · simp only [member, ↓reduceIte]
        exact .some (tied.move _ head)
      · simp only [member, Bool.false_eq_true, ↓reduceIte]
        exact .none
  | assertion condition =>
    refine List.rel_filter (fun first second head => ?_) related
    beta_reduce
    rw [tied.place head]
  | group index body ih =>
    rcases closes with absent | closes
    · exact absurd absent id
    · refine tied.distinct (forall₂_flatMap ?_ related)
      intro first second head
      beta_reduce
      rw [tied.place head]
      rw [List.forall₂_map_left_iff, List.forall₂_map_right_iff]
      exact (ih (.inr closes) (.cons head .nil)).imp fun _ _ => closes index second.place
  | seq first second ihFirst ihSecond =>
    exact ihSecond (closes.imp_left And.right) (ihFirst (closes.imp_left And.left) related)
  | alt first second ihFirst ihSecond =>
    refine tied.distinct (forall₂_flatMap ?_ related)
    intro one other head
    exact List.rel_append (ihFirst (closes.imp_left And.left) (.cons head .nil))
      (ihSecond (closes.imp_left And.right) (.cons head .nil))
  | rep least most greedy body ih =>
    by_cases idle : least = 0 ∧ most = some 0
    · obtain ⟨rfl, rfl⟩ := idle
      refine tied.distinct (forall₂_flatMap ?_ related)
      exact fun first second head => .cons head .nil
    · have inner : body.Groupless ∨ ∀ (index first : Nat) {left right : Thread}, R left right →
          R (left.close index first) (right.close index first) :=
        closes.imp_left fun groupless => groupless.resolve_left idle
      exact run_rep_tied tied (ih inner) least most greedy related

/-- Threads at the same place. -/
def SamePlace (left right : Thread) : Prop :=
  left.place = right.place

/-- Standing at the same place is a tie: nothing that a match decides looks at the groups of a
thread. -/
theorem tied_samePlace : Tied SamePlace where
  place same := same
  move _ _ := rfl

/-- Lists of threads at the same places are lists with the same places. -/
theorem forall₂_samePlace_iff {left right : List Thread} :
    List.Forall₂ SamePlace left right ↔ Thread.places left = Thread.places right := by
  unfold Thread.places
  rw [← List.forall₂_eq_eq_eq, List.forall₂_map_left_iff, List.forall₂_map_right_iff]
  rfl

theorem placewise_iff {follow : Thread → List Thread} :
    Placewise follow ↔ TiedSteps SamePlace follow follow :=
  forall₂_congr fun _ _ => imp_congr_right fun _ => forall₂_samePlace_iff.symm

/-- Where the threads of a match end depends on the place it starts at and not on its groups. -/
theorem placewise_run (text : Array Char) (pattern : Pattern) :
    Placewise fun thread => pattern.run text [thread] := by
  rw [placewise_iff]
  intro left right same
  exact run_tied tied_samePlace text pattern (.inr fun _ _ _ _ same => same) (.cons same .nil)

/-- A way to treat lists of threads that treats every thread for itself and drops later threads at
the same place. -/
structure Threadwise (follow : List Thread → List Thread) : Prop where
  apart : ∀ {threads : List Thread}, (Thread.places threads).Nodup →
    (Thread.places (follow threads)).Nodup
  split : ∀ {threads : List Thread}, (Thread.places threads).Nodup →
    follow threads = Thread.distinct (threads.flatMap fun thread => follow [thread])
  placewise : Placewise fun thread => follow [thread]

namespace Threadwise

theorem singleton_apart (thread : Thread) : (Thread.places [thread]).Nodup :=
  List.nodup_singleton _

/-- A step made of each thread for itself, with the first at each place kept, is threadwise. -/
theorem distinct {step : Thread → List Thread} (placewise : Placewise step) :
    Threadwise fun threads => Thread.distinct (threads.flatMap step) where
  apart _ := Thread.nodup_places_distinct _
  split _ := by
    simp only [List.flatMap_singleton]
    exact (Thread.distinct_flatMap_follow step _).symm
  placewise := by
    rw [placewise_iff] at placewise ⊢
    intro left right same
    simp only [List.flatMap_singleton]
    exact tied_samePlace.distinct (placewise left right same)

/-- What is done for each thread for itself can be done in turn. -/
theorem comp {first second : List Thread → List Thread} (one : Threadwise first)
    (two : Threadwise second) : Threadwise fun threads => second (first threads) where
  apart apart := two.apart (one.apart apart)
  split {threads} apart := by
    have inner (thread : Thread) : second (first [thread]) =
        Thread.distinct ((first [thread]).flatMap fun middle => second [middle]) :=
      two.split (one.apart (singleton_apart thread))
    rw [two.split (one.apart apart), one.split apart,
      Thread.distinct_flatMap_distinct two.placewise, List.flatMap_assoc]
    simp only [inner]
    exact (Thread.distinct_flatMap_follow _ _).symm
  placewise := by
    intro left right same
    have inner (thread : Thread) : second (first [thread]) =
        Thread.distinct ((first [thread]).flatMap fun middle => second [middle]) :=
      two.split (one.apart (singleton_apart thread))
    have steps := placewise_iff.mp two.placewise
    have start := placewise_iff.mp one.placewise left right same
    simp only [inner]
    exact forall₂_samePlace_iff.mp (tied_samePlace.distinct (forall₂_flatMap steps start))

theorem id : Threadwise fun threads => threads where
  apart apart := apart
  split apart := by
    simp only [List.flatMap_singleton']
    exact (Thread.distinct_eq_self apart).symm
  placewise _ _ same := congrArg (fun place => [place]) same

/-- A fixed number of rounds is threadwise if a round is. -/
theorem times {follow : List Thread → List Thread} (each : Threadwise follow) (count : Nat) :
    Threadwise (times follow count) := by
  induction count with
  | zero => exact id
  | succ count ih => exact each.comp ih

/-- A step that makes at most one thread of each and never brings two together. -/
theorem filterMap {step : Thread → Option Thread}
    (placewise : Placewise fun thread => [thread].filterMap step)
    (away : ∀ left right : Thread, left.place ≠ right.place →
      ∀ one ∈ step left, ∀ other ∈ step right, one.place ≠ other.place) :
    Threadwise fun threads => threads.filterMap step := by
  have apart {threads : List Thread} (different : (Thread.places threads).Nodup) :
      (Thread.places (threads.filterMap step)).Nodup := by
    unfold Thread.places List.Nodup at different ⊢
    rw [List.pairwise_map] at different ⊢
    exact different.filterMap step away
  refine ⟨apart, fun {threads} different => ?_, placewise⟩
  have each : threads.filterMap step = threads.flatMap fun thread => [thread].filterMap step := by
    rw [← List.filterMap_flatMap, List.flatMap_singleton']
  rw [← each]
  exact (Thread.distinct_eq_self (apart different)).symm

end Threadwise

/-- A class takes a thread one character on, if the character is in it. -/
theorem mem_run_one {text : Array Char} {set : CharSet} {threads : List Thread} {done : Thread} :
    done ∈ (one set).run text threads ↔ ∃ thread ∈ threads,
      (∃ c, text[thread.place]? = some c ∧ set.has c) ∧
        done = ⟨thread.place + 1, thread.groups⟩ := by
  unfold run
  rw [List.mem_filterMap]
  refine exists_congr fun thread => and_congr_right fun _ => ?_
  cases text[thread.place]? with
  | none => simp only [reduceCtorEq, false_and, exists_false]
  | some c =>
    by_cases member : set.has c = true
    · simp only [member, ↓reduceIte, Option.some.injEq, exists_eq_left', true_and]
      exact eq_comm
    · simp only [member, Bool.false_eq_true, ↓reduceIte, reduceCtorEq, Option.some.injEq,
        exists_eq_left', false_and]

/-- An assertion keeps the threads at whose places it holds. -/
theorem mem_run_assertion {text : Array Char} {condition : Assertion} {threads : List Thread}
    {done : Thread} :
    done ∈ (assertion condition).run text threads ↔
      done ∈ threads ∧ condition.holds text done.place = true := by
  unfold run
  exact List.mem_filter

/-- A pattern treats every thread for itself. -/
theorem threadwise_run (text : Array Char) (pattern : Pattern) :
    Threadwise (pattern.run text) := by
  induction pattern with
  | empty => exact .id
  | one set =>
    refine .filterMap (placewise_run text (one set)) fun left right away one found other also => ?_
    have next {thread done : Thread} (found : done ∈ (Pattern.one set).run text [thread]) :
        done.place = thread.place + 1 := by
      obtain ⟨_, member, _, rfl⟩ := mem_run_one.mp found
      rw [List.mem_singleton.mp member]
    rw [next (List.mem_filterMap.mpr ⟨left, List.mem_singleton_self _, found⟩),
      next (List.mem_filterMap.mpr ⟨right, List.mem_singleton_self _, also⟩)]
    exact fun same => away (Nat.succ.inj same)
  | assertion condition =>
    have filtered (threads : List Thread) : (assertion condition).run text threads =
        threads.filterMap (Option.guard fun thread => condition.holds text thread.place) :=
      congrFun List.filterMap_eq_filter.symm threads
    have each := placewise_run text (assertion condition)
    simp only [filtered] at each
    rw [funext filtered]
    refine .filterMap each fun left right different one found other => ?_
    simp only [Option.mem_def, Option.guard_eq_some_iff] at found ⊢
    rintro ⟨rfl, _⟩
    exact found.1 ▸ different
  | group index body ih =>
    refine .distinct (placewise_iff.mpr fun left right same => ?_)
    have inner := placewise_iff.mp ih.placewise left right same
    rw [List.forall₂_map_left_iff, List.forall₂_map_right_iff]
    exact inner
  | seq first second ihFirst ihSecond => exact ihFirst.comp ihSecond
  | alt first second ihFirst ihSecond =>
    refine .distinct (placewise_iff.mpr fun left right same => ?_)
    exact List.rel_append (placewise_iff.mp ihFirst.placewise left right same)
      (placewise_iff.mp ihSecond.placewise left right same)
  | rep least most greedy body ih =>
    have steps := placewise_iff.mp ih.placewise
    have some_rounds (count : Nat) {step : Thread → List Thread} (placewise : Placewise step) :
        Threadwise fun threads =>
          Thread.distinct ((times (body.run text) count threads).flatMap step) :=
      (ih.times count).comp (.distinct placewise)
    cases most with
    | some most =>
      refine some_rounds least (placewise_iff.mpr fun left right same => ?_)
      exact (steps.upTo tied_samePlace greedy _ [] left right same).2
    | none =>
      cases least with
      | zero =>
        refine .distinct (placewise_iff.mpr fun left right same => ?_)
        exact forall₂_prefer greedy same
          (steps.oneOrMore tied_samePlace greedy _ left right same)
      | succ least =>
        exact some_rounds least
          (placewise_iff.mpr (steps.oneOrMore tied_samePlace greedy _))

/-- What a pattern makes of several threads is what it makes of each of them, in order. -/
theorem run_eq_distinct (text : Array Char) (pattern : Pattern) {threads : List Thread}
    (apart : (Thread.places threads).Nodup) :
    pattern.run text threads =
      Thread.distinct (threads.flatMap fun thread => pattern.run text [thread]) :=
  (threadwise_run text pattern).split apart

/-- The threads that a match makes of one thread end at different places. -/
theorem nodup_places_run (text : Array Char) (pattern : Pattern) (thread : Thread) :
    (Thread.places (pattern.run text [thread])).Nodup :=
  (threadwise_run text pattern).apart (Threadwise.singleton_apart thread)

end Scrutiny.Pattern
