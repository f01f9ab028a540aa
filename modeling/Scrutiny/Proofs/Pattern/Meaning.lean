import Mathlib.Data.List.Nodup
import Mathlib.Data.Finset.Card
import Scrutiny.Proofs.Pattern.Threads

/-! # What a pattern matches

`Pattern.Matches` says between which places of a text a pattern matches, whatever is preferred.
Following threads finds exactly these places (`mem_places_run`): a repetition may pass over a place
it has left before, and still comes to every place that some number of rounds leads to. So a search
succeeds exactly if there is a match (`find?_isSome`).
-/

namespace Scrutiny.Pattern

/-- A number of rounds, one after the other. -/
def Leads (round : Nat → Nat → Prop) : Nat → Nat → Nat → Prop
  | 0, first, last => first = last
  | count + 1, first, last => ∃ middle, round first middle ∧ Leads round count middle last

/-- Whether a pattern matches a text from one place to another. -/
def Matches (text : Array Char) : Pattern → Nat → Nat → Prop
  | empty, first, last => first = last
  | one set, first, last => (∃ c, text[first]? = some c ∧ set.has c) ∧ last = first + 1
  | assertion condition, first, last => condition.holds text first ∧ first = last
  | group _ body, first, last => body.Matches text first last
  | seq left right, first, last =>
    ∃ middle, left.Matches text first middle ∧ right.Matches text middle last
  | alt left right, first, last => left.Matches text first last ∨ right.Matches text first last
  | rep least most _ body, first, last =>
    ∃ count, least ≤ count ∧ (∀ limit, most = some limit → count ≤ max least limit) ∧
      Leads (body.Matches text) count first last

namespace Leads

variable {round : Nat → Nat → Prop} {first middle last count more : Nat}

/-- Some rounds and then more rounds are all of them together. -/
theorem append (start : Leads round count first middle) (further : Leads round more middle last) :
    Leads round (count + more) first last := by
  induction count generalizing first with
  | zero =>
    obtain rfl : first = middle := start
    rwa [Nat.zero_add]
  | succ count ih =>
    obtain ⟨next, head, rest⟩ := start
    rw [Nat.add_right_comm]
    exact ⟨next, head, ih rest⟩

/-- All rounds can be cut after any number of them. -/
theorem split (whole : Leads round (count + more) first last) :
    ∃ middle, Leads round count first middle ∧ Leads round more middle last := by
  induction count generalizing first with
  | zero => exact ⟨first, rfl, Nat.zero_add more ▸ whole⟩
  | succ count ih =>
    rw [Nat.add_right_comm] at whole
    obtain ⟨next, head, rest⟩ := whole
    obtain ⟨middle, start, further⟩ := ih rest
    exact ⟨middle, ⟨next, head, start⟩, further⟩

/-- What every round keeps, any number of rounds keeps. -/
theorem keeps (kept : Nat → Prop) (step : ∀ i j, kept i → round i j → kept j)
    (leads : Leads round count first last) (start : kept first) : kept last := by
  induction count generalizing first with
  | zero =>
    obtain rfl : first = last := leads
    exact start
  | succ count ih =>
    obtain ⟨next, head, rest⟩ := leads
    exact ih rest (step _ _ start head)

end Leads

/-- A match ends within the text, and not before it begins. -/
theorem Matches.bounds {text : Array Char} {pattern : Pattern} {first last : Nat}
    (found : pattern.Matches text first last) :
    first ≤ last ∧ (first ≤ text.size → last ≤ text.size) := by
  induction pattern generalizing first last with
  | empty =>
    obtain rfl : first = last := found
    exact ⟨Nat.le_refl _, id⟩
  | one set =>
    obtain ⟨⟨c, here, _⟩, rfl⟩ := found
    obtain ⟨inside, _⟩ := Array.getElem?_eq_some_iff.mp here
    exact ⟨Nat.le_succ _, fun _ => inside⟩
  | assertion condition =>
    obtain ⟨_, rfl⟩ := found
    exact ⟨Nat.le_refl _, id⟩
  | group index body ih => exact ih found
  | seq left right ihLeft ihRight =>
    obtain ⟨middle, one, two⟩ := found
    exact ⟨(ihLeft one).1.trans (ihRight two).1, (ihRight two).2 ∘ (ihLeft one).2⟩
  | alt left right ihLeft ihRight => exact found.elim ihLeft ihRight
  | rep least most greedy body ih =>
    obtain ⟨count, _, _, leads⟩ := found
    refine leads.keeps (fun place => first ≤ place ∧ (first ≤ text.size → place ≤ text.size))
      (fun i j kept round => ?_) ⟨Nat.le_refl first, id⟩
    exact ⟨kept.1.trans (ih round).1, (ih round).2 ∘ kept.2⟩

section Exploring

variable {round : Nat → Nat → Prop} {step : Thread → List Thread} {greedy : Bool}

/-- A step that follows a round of a repetition within a text of some length. -/
structure Follows (size : Nat) (round : Nat → Nat → Prop) (step : Thread → List Thread) : Prop where
  mem_iff : ∀ thread : Thread, thread.place ≤ size →
    ∀ place, place ∈ Thread.places (step thread) ↔ round thread.place place
  inside : ∀ i j, i ≤ size → round i j → j ≤ size

/-- What follows on a thread inside a text is a round further and inside the text. -/
theorem Follows.step_inside {size : Nat} (follows : Follows size round step) {thread next : Thread}
    (inside : thread.place ≤ size) (member : next ∈ step thread) :
    round thread.place next.place ∧ next.place ≤ size := by
  have reached := (follows.mem_iff thread inside next.place).mp
    (Thread.mem_places.mpr ⟨next, member, rfl⟩)
  exact ⟨reached, follows.inside _ _ inside reached⟩

/-- Preferring one or the other, a repetition stops or goes on. -/
theorem mem_prefer {stop thread : Thread} {further : List Thread} :
    thread ∈ prefer greedy stop further ↔ thread = stop ∨ thread ∈ further := by
  cases greedy with
  | true => simp only [prefer, ↓reduceIte, List.mem_append, List.mem_singleton, or_comm]
  | false => simp only [prefer, Bool.false_eq_true, ↓reduceIte, List.mem_cons]

/-- The places of a repetition are where it stops and where it goes on to. -/
theorem mem_places_prefer {stop : Thread} {further : List Thread} {place : Nat} :
    place ∈ Thread.places (prefer greedy stop further) ↔
      place = stop.place ∨ place ∈ Thread.places further := by
  simp only [Thread.mem_places, mem_prefer, or_and_right, exists_or, exists_eq_left]
  exact or_congr_left eq_comm

/-- What following several threads finds is found by following one of them. -/
theorem mem_rounds {σ : Type} {follow : List σ → Thread → List σ × List Thread}
    {threads : List Thread} {seen : List σ} {found : Thread}
    (member : found ∈ (rounds follow seen threads).2) :
    ∃ thread ∈ threads, ∃ before, found ∈ (follow before thread).2 := by
  induction threads generalizing seen with
  | nil => exact absurd member List.not_mem_nil
  | cons thread threads ih =>
    rw [rounds_cons] at member
    rcases List.mem_append.mp member with here | later
    · exact ⟨thread, List.mem_cons_self, seen, here⟩
    · obtain ⟨other, among, before, further⟩ := ih later
      exact ⟨other, List.mem_cons_of_mem _ among, before, further⟩

/-- A repetition only ends where rounds lead. -/
theorem again_sound {size : Nat} (follows : Follows size round step) {origin bound : Nat}
    {seen : List Nat} {thread found : Thread} (inside : thread.place ≤ size)
    (member : found ∈ (again step greedy origin bound seen thread).2) :
    ∃ count, Leads round count thread.place found.place := by
  induction bound generalizing seen thread with
  | zero => exact ⟨0, congrArg Thread.place (List.mem_singleton.mp member).symm⟩
  | succ bound ih =>
    by_cases before : thread.place ∈ seen
    · rw [again_of_mem before] at member
      exact absurd member List.not_mem_nil
    · by_cases home : thread.place = origin
      · rw [again_origin before home, mem_prefer] at member
        exact ⟨0, congrArg Thread.place (member.resolve_right List.not_mem_nil).symm⟩
      · rw [again_away before home, mem_prefer] at member
        rcases member with rfl | further
        · exact ⟨0, rfl⟩
        · obtain ⟨next, among, _, later⟩ := mem_rounds further
          obtain ⟨reached, within⟩ := follows.step_inside inside among
          obtain ⟨count, leads⟩ := ih within later
          exact ⟨count + 1, next.place, reached, leads⟩

/-- What the search of a repetition has done between two accounts of the places it has left: the
new places are all found, and from each of them but the origin every round leads to a place in the
account. -/
structure Explored (round : Nat → Nat → Prop) (size origin : Nat) (before after : List Nat)
    (found : List Thread) : Prop where
  grows : ∀ place ∈ before, place ∈ after
  ends : ∀ place ∈ after, place ∉ before → place ∈ Thread.places found
  closed : ∀ place ∈ after, place ∉ before → place ≠ origin →
    ∀ next, round place next → next ∈ after
  tidy : before.Nodup → (∀ place ∈ before, place ≤ size) →
    after.Nodup ∧ ∀ place ∈ after, place ≤ size

theorem Explored.refl (size origin : Nat) (seen : List Nat) (found : List Thread) :
    Explored round size origin seen seen found where
  grows _ member := member
  ends _ member absent := absurd member absent
  closed _ member absent := absurd member absent
  tidy apart inside := ⟨apart, inside⟩

theorem Explored.trans {size origin : Nat} {before middle after : List Nat}
    {first second : List Thread} (one : Explored round size origin before middle first)
    (two : Explored round size origin middle after second) :
    Explored round size origin before after (first ++ second) where
  grows place member := two.grows place (one.grows place member)
  ends place member absent := by
    rw [Thread.places_append, List.mem_append]
    by_cases early : place ∈ middle
    · exact .inl (one.ends place early absent)
    · exact .inr (two.ends place member early)
  closed place member absent away next leads := by
    by_cases early : place ∈ middle
    · exact two.grows next (one.closed place early absent away next leads)
    · exact two.closed place member early away next leads
  tidy apart inside := two.tidy (one.tidy apart inside).1 (one.tidy apart inside).2

/-- As many places as a text has are all its places. -/
theorem mem_of_full {size place : Nat} {seen : List Nat} (apart : seen.Nodup)
    (inside : ∀ place ∈ seen, place ≤ size) (full : size + 1 ≤ seen.length)
    (within : place ≤ size) : place ∈ seen := by
  have sub : seen.toFinset ⊆ Finset.range (size + 1) := fun other member =>
    Finset.mem_range_succ_iff.mpr (inside other (List.mem_toFinset.mp member))
  have counted : (Finset.range (size + 1)).card ≤ seen.toFinset.card := by
    rwa [Finset.card_range, List.toFinset_card_of_nodup apart]
  rw [← List.mem_toFinset, Finset.eq_of_subset_of_card_le sub counted]
  exact Finset.mem_range_succ_iff.mpr within

/-- Nothing that follows a thread forgets a place, so places stay accounted for along a list. -/
theorem rounds_explored {size origin : Nat} {follow : List Nat → Thread → List Nat × List Thread}
    (enough : List Nat → Prop) (stays : ∀ {seen other : List Nat}, enough seen → seen.Nodup →
      (∀ place ∈ seen, place ∈ other) → enough other)
    (each : ∀ (seen : List Nat) (thread : Thread), thread.place ≤ size → seen.Nodup →
      (∀ place ∈ seen, place ≤ size) → enough seen →
      Explored round size origin seen (follow seen thread).1 (follow seen thread).2 ∧
        thread.place ∈ (follow seen thread).1)
    {threads : List Thread} (within : ∀ thread ∈ threads, thread.place ≤ size) {seen : List Nat}
    (apart : seen.Nodup) (inside : ∀ place ∈ seen, place ≤ size) (room : enough seen) :
    Explored round size origin seen (rounds follow seen threads).1 (rounds follow seen threads).2 ∧
      ∀ place ∈ Thread.places threads, place ∈ (rounds follow seen threads).1 := by
  induction threads generalizing seen with
  | nil => exact ⟨.refl size origin seen [], fun place member => absurd member List.not_mem_nil⟩
  | cons thread threads ih =>
    obtain ⟨here, kept⟩ := each seen thread (within _ List.mem_cons_self) apart inside room
    obtain ⟨tidy, bounded⟩ := here.tidy apart inside
    obtain ⟨later, all⟩ := ih (fun other member => within other (List.mem_cons_of_mem _ member))
      tidy bounded (stays room apart here.grows)
    rw [rounds_cons]
    refine ⟨here.trans later, fun place member => ?_⟩
    rcases List.mem_cons.mp member with rfl | member
    · exact later.grows _ kept
    · exact all place member

variable (greedy) in
/-- With a bound for every place that is left, the search from a thread accounts for its place. -/
theorem again_explored {size : Nat} (follows : Follows size round step) (origin bound : Nat)
    (seen : List Nat) (thread : Thread) (within : thread.place ≤ size) (apart : seen.Nodup)
    (inside : ∀ place ∈ seen, place ≤ size) (room : size + 1 ≤ bound + seen.length) :
    Explored round size origin seen (again step greedy origin bound seen thread).1
        (again step greedy origin bound seen thread).2 ∧
      thread.place ∈ (again step greedy origin bound seen thread).1 := by
  induction bound generalizing seen thread with
  | zero =>
    -- The bound is spent only when every place of the text has been seen.
    have full : size + 1 ≤ seen.length := by rwa [Nat.zero_add] at room
    exact ⟨.refl size origin seen [thread], mem_of_full apart inside full within⟩
  | succ bound ih =>
    by_cases before : thread.place ∈ seen
    · rw [again_of_mem before]
      exact ⟨.refl size origin seen _, before⟩
    · have apart' : (thread.place :: seen).Nodup := List.nodup_cons.mpr ⟨before, apart⟩
      have inside' : ∀ place ∈ thread.place :: seen, place ≤ size :=
        List.forall_mem_cons.mpr ⟨within, inside⟩
      by_cases home : thread.place = origin
      · rw [again_origin before home]
        refine ⟨⟨fun place => List.mem_cons_of_mem _, fun place member absent => ?_,
          fun place member absent away => ?_, fun _ _ => ⟨apart', inside'⟩⟩, List.mem_cons_self⟩
        · rw [mem_places_prefer]
          exact .inl ((List.mem_cons.mp member).resolve_right absent)
        · exact absurd (((List.mem_cons.mp member).resolve_right absent).trans home) away
      · rw [again_away before home]
        have successors : ∀ next ∈ step thread, next.place ≤ size := fun next member =>
          (follows.step_inside within member).2
        have room' : size + 1 ≤ bound + (thread.place :: seen).length := by
          rw [List.length_cons]
          omega
        obtain ⟨further, all⟩ := rounds_explored (fun seen => size + 1 ≤ bound + seen.length)
          (fun room apart grows => room.trans
            (Nat.add_le_add_left (apart.length_le_of_subset fun _ => grows _) bound))
          ih successors apart' inside' room'
        refine ⟨⟨fun place member => further.grows place (List.mem_cons_of_mem _ member),
          fun place member absent => ?_, fun place member absent away next leads => ?_,
          fun _ _ => further.tidy apart' inside'⟩, further.grows _ List.mem_cons_self⟩
        · rw [mem_places_prefer]
          by_cases same : place = thread.place
          · exact .inl same
          · exact .inr (further.ends place member (List.not_mem_cons_of_ne_of_not_mem same absent))
        · by_cases same : place = thread.place
          · exact all next ((follows.mem_iff thread within next).mpr (same ▸ leads))
          · exact further.closed place member (List.not_mem_cons_of_ne_of_not_mem same absent) away
              next leads

/-- One or more rounds end exactly where some number of rounds leads. -/
theorem mem_places_oneOrMore {size : Nat} (follows : Follows size round step) {thread : Thread}
    (within : thread.place ≤ size) {place : Nat} :
    place ∈ Thread.places (oneOrMore step greedy (size + 1) thread) ↔
      ∃ count, Leads round (count + 1) thread.place place := by
  unfold oneOrMore
  have successors : ∀ next ∈ step thread, next.place ≤ size := fun next member =>
    (follows.step_inside within member).2
  constructor
  · intro member
    obtain ⟨found, among, rfl⟩ := Thread.mem_places.mp member
    obtain ⟨next, first, _, later⟩ := mem_rounds among
    obtain ⟨reached, inside⟩ := follows.step_inside within first
    obtain ⟨count, leads⟩ := again_sound follows inside later
    exact ⟨count, next.place, reached, leads⟩
  · rintro ⟨count, first, reached, leads⟩
    obtain ⟨explored, all⟩ := rounds_explored
      (fun seen => size + 1 ≤ size + 1 + seen.length)
      (fun room _ _ => Nat.le_add_right _ _)
      (again_explored greedy follows thread.place (size + 1)) successors
      List.nodup_nil (fun place member => absurd member List.not_mem_nil)
      (Nat.le_add_right _ _)
    -- Every round from the account leads into it: the rounds from the origin are the first ones.
    have closed : ∀ i j, i ∈ (rounds (again step greedy thread.place (size + 1)) []
        (step thread)).1 → round i j →
        j ∈ (rounds (again step greedy thread.place (size + 1)) [] (step thread)).1 := by
      intro i j member next
      by_cases home : i = thread.place
      · exact all j ((follows.mem_iff thread within j).mpr (home ▸ next))
      · exact explored.closed i member List.not_mem_nil home j next
    have reaches := leads.keeps _ closed (all first ((follows.mem_iff thread within _).mpr reached))
    exact explored.ends place reaches List.not_mem_nil

/-- At most a number of rounds only end where that many rounds lead at most. -/
theorem upTo_sound {size : Nat} (follows : Follows size round step) {left : Nat}
    {seen : List (Nat × Nat)} {thread found : Thread} (inside : thread.place ≤ size)
    (member : found ∈ (upTo step greedy left seen thread).2) :
    ∃ count ≤ left, Leads round count thread.place found.place := by
  induction left generalizing seen thread with
  | zero =>
    exact ⟨0, Nat.le_refl 0, congrArg Thread.place (List.mem_singleton.mp member).symm⟩
  | succ left ih =>
    by_cases before : (left, thread.place) ∈ seen
    · rw [upTo_of_mem before] at member
      exact absurd member List.not_mem_nil
    · rw [upTo_of_notMem before, mem_prefer] at member
      rcases member with rfl | further
      · exact ⟨0, Nat.zero_le _, rfl⟩
      · obtain ⟨next, among, _, later⟩ := mem_rounds further
        obtain ⟨reached, within⟩ := follows.step_inside inside among
        obtain ⟨count, few, leads⟩ := ih within later
        exact ⟨count + 1, Nat.succ_le_succ few, next.place, reached, leads⟩

/-- A place with some rounds left is settled: it is in the account, or without rounds left it is an
end. -/
def Settled (seen : List (Nat × Nat)) (found : List Thread) (left place : Nat) : Prop :=
  match left with
  | 0 => place ∈ Thread.places found
  | left + 1 => (left, place) ∈ seen

/-- What the search of a bounded repetition has done between two accounts: the new places are all
ends, and every round from one of them leads to a place that is settled with one round less. -/
structure Counted (round : Nat → Nat → Prop) (before after : List (Nat × Nat))
    (found : List Thread) : Prop where
  grows : ∀ entry ∈ before, entry ∈ after
  ends : ∀ left place, (left, place) ∈ after → (left, place) ∉ before →
    place ∈ Thread.places found
  closed : ∀ left place, (left, place) ∈ after → (left, place) ∉ before →
    ∀ next, round place next → Settled after found left next

/-- What is settled stays so when more has been seen and found. -/
theorem Settled.mono {before after : List (Nat × Nat)} {found more : List Thread}
    (grows : ∀ entry ∈ before, entry ∈ after)
    (further : ∀ place ∈ Thread.places found, place ∈ Thread.places more) {left place : Nat}
    (settled : Settled before found left place) : Settled after more left place := by
  cases left with
  | zero => exact further place settled
  | succ left => exact grows _ settled

theorem Counted.refl (seen : List (Nat × Nat)) (found : List Thread) :
    Counted round seen seen found where
  grows _ member := member
  ends _ _ member absent := absurd member absent
  closed _ _ member absent := absurd member absent

theorem Counted.trans {before middle after : List (Nat × Nat)} {first second : List Thread}
    (one : Counted round before middle first) (two : Counted round middle after second) :
    Counted round before after (first ++ second) where
  grows entry member := two.grows entry (one.grows entry member)
  ends left place member absent := by
    rw [Thread.places_append, List.mem_append]
    by_cases early : (left, place) ∈ middle
    · exact .inl (one.ends left place early absent)
    · exact .inr (two.ends left place member early)
  closed left place member absent next leads := by
    rw [← List.append_nil (first ++ second)]
    by_cases early : (left, place) ∈ middle
    · refine (one.closed left place early absent next leads).mono two.grows fun other found => ?_
      simp only [Thread.places_append, List.mem_append, found, true_or]
    · refine (two.closed left place member early next leads).mono (fun _ => id)
        fun other found => ?_
      simp only [Thread.places_append, List.mem_append, found, or_true, true_or]

/-- Places stay settled along a list of threads. -/
theorem rounds_counted {size left : Nat}
    {follow : List (Nat × Nat) → Thread → List (Nat × Nat) × List Thread}
    (each : ∀ (seen : List (Nat × Nat)) (thread : Thread), thread.place ≤ size →
      Counted round seen (follow seen thread).1 (follow seen thread).2 ∧
        Settled (follow seen thread).1 (follow seen thread).2 left thread.place)
    {threads : List Thread} (within : ∀ thread ∈ threads, thread.place ≤ size)
    (seen : List (Nat × Nat)) :
    Counted round seen (rounds follow seen threads).1 (rounds follow seen threads).2 ∧
      ∀ place ∈ Thread.places threads,
        Settled (rounds follow seen threads).1 (rounds follow seen threads).2 left place := by
  induction threads generalizing seen with
  | nil => exact ⟨.refl seen [], fun place member => absurd member List.not_mem_nil⟩
  | cons thread threads ih =>
    obtain ⟨here, settled⟩ := each seen thread (within _ List.mem_cons_self)
    obtain ⟨later, all⟩ :=
      ih (fun other member => within other (List.mem_cons_of_mem _ member)) (follow seen thread).1
    rw [rounds_cons]
    refine ⟨here.trans later, fun place member => ?_⟩
    simp only [Thread.places_cons, List.mem_cons] at member
    rcases member with rfl | member
    · refine settled.mono later.grows fun other found => ?_
      rw [Thread.places_append]
      exact List.mem_append_left _ found
    · refine (all place member).mono (fun _ => id) fun other found => ?_
      rw [Thread.places_append]
      exact List.mem_append_right _ found

variable (greedy) in
/-- The search from a thread settles its place with the rounds that are left. -/
theorem upTo_counted {size : Nat} (follows : Follows size round step) (left : Nat)
    (seen : List (Nat × Nat)) (thread : Thread) (within : thread.place ≤ size) :
    Counted round seen (upTo step greedy left seen thread).1 (upTo step greedy left seen thread).2 ∧
      Settled (upTo step greedy left seen thread).1 (upTo step greedy left seen thread).2 left
        thread.place := by
  induction left generalizing seen thread with
  | zero => exact ⟨.refl seen [thread], List.mem_singleton_self _⟩
  | succ left ih =>
    by_cases before : (left, thread.place) ∈ seen
    · rw [upTo_of_mem before]
      exact ⟨.refl seen [], before⟩
    · rw [upTo_of_notMem before]
      have successors : ∀ next ∈ step thread, next.place ≤ size := fun next member =>
        (follows.step_inside within member).2
      obtain ⟨further, all⟩ := rounds_counted ih successors ((left, thread.place) :: seen)
      have more (place : Nat) (found : place ∈ Thread.places
          (rounds (upTo step greedy left) ((left, thread.place) :: seen) (step thread)).2) :
          place ∈ Thread.places (prefer greedy thread
            (rounds (upTo step greedy left) ((left, thread.place) :: seen) (step thread)).2) :=
        mem_places_prefer.mpr (.inr found)
      refine ⟨⟨fun entry member => further.grows entry (List.mem_cons_of_mem _ member),
        fun other place member absent => ?_, fun other place member absent next leads => ?_⟩,
        further.grows _ List.mem_cons_self⟩
      · by_cases same : (other, place) = (left, thread.place)
        · exact mem_places_prefer.mpr (.inl (Prod.mk.inj same).2)
        · exact more place
            (further.ends other place member (List.not_mem_cons_of_ne_of_not_mem same absent))
      · by_cases same : (other, place) = (left, thread.place)
        · obtain ⟨rfl, rfl⟩ := Prod.mk.inj same
          exact (all next ((follows.mem_iff thread within next).mpr leads)).mono (fun _ => id) more
        · exact (further.closed other place member
            (List.not_mem_cons_of_ne_of_not_mem same absent) next leads).mono (fun _ => id) more

/-- At most a number of rounds end exactly where that many rounds lead at most. -/
theorem mem_places_upTo {size : Nat} (follows : Follows size round step) {left : Nat}
    {thread : Thread} (within : thread.place ≤ size) {place : Nat} :
    place ∈ Thread.places (upTo step greedy left [] thread).2 ↔
      ∃ count ≤ left, Leads round count thread.place place := by
  constructor
  · intro member
    obtain ⟨found, among, rfl⟩ := Thread.mem_places.mp member
    exact upTo_sound follows within among
  · rintro ⟨count, few, leads⟩
    obtain ⟨counted, settled⟩ := upTo_counted greedy follows left [] thread within
    generalize (upTo step greedy left [] thread).1 = seen at counted settled
    generalize (upTo step greedy left [] thread).2 = found at counted settled ⊢
    obtain ⟨first, start⟩ : ∃ first, thread.place = first := ⟨_, rfl⟩
    rw [start] at settled leads
    clear start within
    induction count generalizing left first with
    | zero =>
      obtain rfl : first = place := leads
      cases left with
      | zero => exact settled
      | succ left => exact counted.ends left first settled List.not_mem_nil
    | succ count ih =>
      obtain ⟨next, head, rest⟩ := leads
      cases left with
      | zero => exact absurd few (Nat.not_succ_le_zero count)
      | succ left =>
        exact ih (Nat.le_of_succ_le_succ few) next rest
          (counted.closed left first settled List.not_mem_nil next head)

end Exploring

/-- The ends of a number of rounds of a pattern from some places. -/
theorem mem_places_times {size : Nat} {round : Nat → Nat → Prop}
    {follow : List Thread → List Thread} (inside : ∀ i j, i ≤ size → round i j → j ≤ size)
    (each : ∀ threads : List Thread, (∀ place ∈ Thread.places threads, place ≤ size) →
      ∀ place, place ∈ Thread.places (follow threads) ↔
        ∃ first ∈ Thread.places threads, round first place)
    (count : Nat) (threads : List Thread)
    (within : ∀ place ∈ Thread.places threads, place ≤ size) (place : Nat) :
    place ∈ Thread.places (times follow count threads) ↔
      ∃ first ∈ Thread.places threads, Leads round count first place := by
  induction count generalizing threads with
  | zero => simp only [times, Leads, exists_eq_right]
  | succ count ih =>
    have further : ∀ place ∈ Thread.places (follow threads), place ≤ size := by
      intro place member
      obtain ⟨first, start, head⟩ := (each threads within place).mp member
      exact inside first place (within first start) head
    rw [times, ih (follow threads) further]
    constructor
    · rintro ⟨middle, member, rest⟩
      obtain ⟨first, start, head⟩ := (each threads within middle).mp member
      exact ⟨first, start, middle, head, rest⟩
    · rintro ⟨first, start, middle, head, rest⟩
      exact ⟨middle, (each threads within middle).mpr ⟨first, start, head⟩, rest⟩

/-- Some place of threads has a property if some thread has it at its place. -/
theorem exists_mem_places {threads : List Thread} {holds : Nat → Prop} :
    (∃ place ∈ Thread.places threads, holds place) ↔ ∃ thread ∈ threads, holds thread.place := by
  simp only [Thread.places, List.mem_map, exists_exists_and_eq_and]

/-- For a single thread, its own place is the only one. -/
theorem exists_mem_places_singleton {thread : Thread} {holds : Nat → Prop} :
    (∃ place ∈ Thread.places [thread], holds place) ↔ holds thread.place := by
  rw [exists_mem_places]
  simp only [List.mem_singleton, exists_eq_left]

/-- The ends of a step that is taken from several threads. -/
theorem mem_places_distinct_flatMap {step : Thread → List Thread} (ends : Nat → Nat → Prop)
    {threads : List Thread} (each : ∀ thread ∈ threads, ∀ place,
      place ∈ Thread.places (step thread) ↔ ends thread.place place) (place : Nat) :
    place ∈ Thread.places (Thread.distinct (threads.flatMap step)) ↔
      ∃ first ∈ Thread.places threads, ends first place := by
  rw [Thread.mem_places_distinct, exists_mem_places]
  unfold Thread.places at each ⊢
  rw [List.map_flatMap, List.mem_flatMap]
  exact exists_congr fun thread => and_congr_right fun member => each thread member place

/-- Closing a group moves no thread. -/
theorem places_map_close (index : Nat) (first : Nat) (threads : List Thread) :
    Thread.places (threads.map fun done => done.close index first) = Thread.places threads := by
  unfold Thread.places
  rw [List.map_map]
  rfl

/-- Following threads through a pattern finds exactly the places at which its matches end. -/
def Tracks (text : Array Char) (pattern : Pattern) : Prop :=
  ∀ threads : List Thread, (∀ place ∈ Thread.places threads, place ≤ text.size) →
    ∀ place, place ∈ Thread.places (pattern.run text threads) ↔
      ∃ first ∈ Thread.places threads, pattern.Matches text first place

namespace Tracks

section Repetition

variable {text : Array Char} {body : Pattern} {threads : List Thread} {place : Nat}

/-- The rounds of a repetition follow the matches of its body. -/
theorem follows (tracks : Tracks text body) :
    Follows text.size (body.Matches text) fun thread => body.run text [thread] := by
  refine ⟨fun thread inside place => ?_, fun i j inside head => head.bounds.2 inside⟩
  rw [tracks [thread] (List.forall_mem_singleton.mpr inside)]
  exact exists_mem_places_singleton

/-- After the rounds that have to come, the others are found by a search from each thread. -/
theorem onward (tracks : Tracks text body)
    (within : ∀ place ∈ Thread.places threads, place ≤ text.size) (count : Nat)
    (allowed : Nat → Prop) {step : Thread → List Thread}
    (each : ∀ thread : Thread, thread.place ≤ text.size → ∀ place,
      place ∈ Thread.places (step thread) ↔
        ∃ more, allowed more ∧ Leads (body.Matches text) more thread.place place) :
    place ∈ Thread.places (Thread.distinct ((times (body.run text) count threads).flatMap step)) ↔
      ∃ first ∈ Thread.places threads, ∃ more, allowed more ∧
        Leads (body.Matches text) (count + more) first place := by
  have turns := mem_places_times tracks.follows.inside tracks count threads within
  have turned : ∀ thread ∈ times (body.run text) count threads, thread.place ≤ text.size := by
    intro thread member
    obtain ⟨first, start, leads⟩ := (turns _).mp (List.mem_map_of_mem member)
    exact leads.keeps (· ≤ text.size) tracks.follows.inside (within first start)
  rw [mem_places_distinct_flatMap
    (fun first last => ∃ more, allowed more ∧ Leads (body.Matches text) more first last)
    fun thread member => each thread (turned thread member)]
  constructor
  · rintro ⟨middle, member, more, allows, rest⟩
    obtain ⟨first, start, leads⟩ := (turns middle).mp member
    exact ⟨first, start, more, allows, leads.append rest⟩
  · rintro ⟨first, start, more, allows, leads⟩
    obtain ⟨middle, head, rest⟩ := leads.split
    exact ⟨middle, (turns middle).mpr ⟨first, start, head⟩, more, allows, rest⟩

variable (least : Nat) (greedy : Bool)

/-- A bounded repetition tracks what it matches if its body does. -/
theorem rep_some (tracks : Tracks text body) (most : Nat) :
    Tracks text (rep least (some most) greedy body) := by
  intro threads within place
  refine (tracks.onward within least (· ≤ most - least) fun thread inside place =>
    mem_places_upTo tracks.follows inside).trans ?_
  refine exists_congr fun first => and_congr_right fun _ => ?_
  constructor
  · rintro ⟨more, few, leads⟩
    refine ⟨least + more, Nat.le_add_right _ _, ?_, leads⟩
    rintro limit ⟨⟩
    omega
  · rintro ⟨count, many, few, leads⟩
    obtain ⟨more, rfl⟩ := Nat.exists_eq_add_of_le many
    have limited := few most rfl
    exact ⟨more, by omega, leads⟩

/-- A repetition from no round on tracks what it matches if its body does. -/
theorem rep_zero (tracks : Tracks text body) : Tracks text (rep 0 none greedy body) := by
  intro threads within place
  refine (tracks.onward within 0 (fun _ => True) fun thread inside place => ?_).trans ?_
  · rw [mem_places_prefer, mem_places_oneOrMore tracks.follows inside]
    constructor
    · rintro (rfl | ⟨count, leads⟩)
      · exact ⟨0, trivial, rfl⟩
      · exact ⟨count + 1, trivial, leads⟩
    · rintro ⟨count, _, leads⟩
      cases count with
      | zero => exact .inl leads.symm
      | succ count => exact .inr ⟨count, leads⟩
  · refine exists_congr fun first => and_congr_right fun _ => exists_congr fun more => ?_
    simp only [Nat.zero_add, true_and, Nat.zero_le, reduceCtorEq, false_implies, implies_true]

/-- A repetition from some round on tracks what it matches if its body does. -/
theorem rep_succ (tracks : Tracks text body) : Tracks text (rep (least + 1) none greedy body) := by
  intro threads within place
  refine (tracks.onward within least (1 ≤ ·) fun thread inside place => ?_).trans ?_
  · rw [mem_places_oneOrMore tracks.follows inside]
    constructor
    · rintro ⟨count, leads⟩
      exact ⟨count + 1, Nat.le_add_left 1 count, leads⟩
    · rintro ⟨count, positive, leads⟩
      obtain ⟨more, rfl⟩ := Nat.exists_eq_add_of_le' positive
      exact ⟨more, leads⟩
  · refine exists_congr fun first => and_congr_right fun _ => ?_
    constructor
    · rintro ⟨more, positive, leads⟩
      refine ⟨least + more, by omega, ?_, leads⟩
      simp only [reduceCtorEq, false_implies, implies_true]
    · rintro ⟨count, many, _, leads⟩
      obtain ⟨more, rfl⟩ := Nat.exists_eq_add_of_le (Nat.le_of_succ_le many)
      exact ⟨more, by omega, leads⟩

end Repetition

/-- Patterns in a row track what they match if each does. -/
theorem seq {text : Array Char} {left right : Pattern} (one : Tracks text left)
    (two : Tracks text right) : Tracks text (left.seq right) := by
  intro threads within place
  have reached := one threads within
  have further : ∀ place ∈ Thread.places (left.run text threads), place ≤ text.size := by
    intro place member
    obtain ⟨first, start, head⟩ := (reached place).mp member
    exact head.bounds.2 (within first start)
  rw [run, two _ further]
  constructor
  · rintro ⟨middle, member, rest⟩
    obtain ⟨first, start, head⟩ := (reached middle).mp member
    exact ⟨first, start, middle, head, rest⟩
  · rintro ⟨first, start, middle, head, rest⟩
    exact ⟨middle, (reached middle).mpr ⟨first, start, head⟩, rest⟩

end Tracks

/-- Following threads finds exactly the places at which matches end. -/
theorem mem_places_run (text : Array Char) (pattern : Pattern) : Tracks text pattern := by
  induction pattern with
  | empty =>
    intro threads _ place
    simp only [run, Matches, exists_eq_right]
  | one set =>
    intro threads _ place
    simp only [Thread.mem_places, mem_run_one, Matches]
    constructor
    · rintro ⟨_, ⟨thread, member, here, rfl⟩, rfl⟩
      exact ⟨thread.place, ⟨thread, member, rfl⟩, here, rfl⟩
    · rintro ⟨_, ⟨thread, member, rfl⟩, here, rfl⟩
      exact ⟨_, ⟨thread, member, here, rfl⟩, rfl⟩
  | assertion condition =>
    intro threads _ place
    simp only [Thread.mem_places, mem_run_assertion, Matches]
    constructor
    · rintro ⟨thread, ⟨member, holds⟩, rfl⟩
      exact ⟨thread.place, ⟨thread, member, rfl⟩, holds, rfl⟩
    · rintro ⟨_, ⟨thread, member, rfl⟩, holds, rfl⟩
      exact ⟨thread, ⟨member, holds⟩, rfl⟩
  | group index body ih =>
    intro threads within place
    refine mem_places_distinct_flatMap _ (fun thread member place => ?_) place
    rw [places_map_close, ih [thread] (List.forall_mem_singleton.mpr
      (within _ (List.mem_map_of_mem member)))]
    exact exists_mem_places_singleton
  | seq left right one two => exact one.seq two
  | alt left right one two =>
    intro threads within place
    refine mem_places_distinct_flatMap _ (fun thread member place => ?_) place
    have inside : ∀ place ∈ Thread.places [thread], place ≤ text.size :=
      List.forall_mem_singleton.mpr (within _ (List.mem_map_of_mem member))
    rw [Thread.places_append, List.mem_append, one [thread] inside, two [thread] inside]
    exact or_congr exists_mem_places_singleton exists_mem_places_singleton
  | rep least most greedy body ih =>
    cases most with
    | some most => exact ih.rep_some least greedy most
    | none =>
      cases least with
      | zero => exact ih.rep_zero greedy
      | succ least => exact ih.rep_succ least greedy

/-- The places where matches from a place on end, in order of preference. -/
def ends (pattern : Pattern) (text : Array Char) (place : Nat) : List Nat :=
  Thread.places (pattern.run text [⟨place, []⟩])

/-- The places where the matcher can end are those up to which the pattern matches. -/
theorem mem_ends {pattern : Pattern} {text : Array Char} {first last : Nat}
    (within : first ≤ text.size) :
    last ∈ pattern.ends text first ↔ pattern.Matches text first last := by
  have inside : ∀ place ∈ Thread.places [⟨first, []⟩], place ≤ text.size :=
    List.forall_mem_singleton.mpr within
  unfold ends
  rw [mem_places_run text pattern _ inside]
  exact exists_mem_places_singleton

section Searching

variable {text : Array Char} {pattern : Pattern}

/-- Matching at a place succeeds if the pattern matches from there to some place. -/
theorem matchAt_isSome {place : Nat} (within : place ≤ text.size) :
    (pattern.matchAt text place).isSome = true ↔ ∃ last, pattern.Matches text place last := by
  simp only [matchAt, Option.isSome_map, List.isSome_head?, ← mem_ends within, ends,
    Thread.mem_places]
  constructor
  · intro some
    obtain ⟨thread, member⟩ := List.exists_mem_of_ne_nil _ some
    exact ⟨_, thread, member, rfl⟩
  · rintro ⟨_, thread, member, _⟩
    exact List.ne_nil_of_mem member

/-- Matching from several places on succeeds if it does at one of them. -/
theorem matchWithin_isSome {start count : Nat} :
    (pattern.matchWithin text start count).isSome = true ↔
      ∃ place, start ≤ place ∧ place < start + count ∧
        (pattern.matchAt text place).isSome = true := by
  induction count generalizing start with
  | zero =>
    refine ⟨fun found => absurd found Bool.false_ne_true, ?_⟩
    rintro ⟨place, low, high, _⟩
    omega
  | succ count ih =>
    rw [matchWithin]
    cases here : pattern.matchAt text start with
    | some found =>
      have first : (pattern.matchAt text start).isSome = true := here ▸ rfl
      exact ⟨fun _ => ⟨start, Nat.le_refl _, by omega, first⟩, fun _ => rfl⟩
    | none =>
      refine ih.trans ⟨?_, ?_⟩
      · rintro ⟨place, low, high, found⟩
        exact ⟨place, by omega, by omega, found⟩
      · rintro ⟨place, low, high, found⟩
        have away : place ≠ start := by
          rintro rfl
          rw [here] at found
          exact Bool.false_ne_true found
        exact ⟨place, by omega, by omega, found⟩

/-- A pattern is found exactly if it matches from some place of the text on. -/
theorem find?_isSome :
    (pattern.find? text 0).isSome = true ↔
      ∃ first last, first ≤ text.size ∧ pattern.Matches text first last := by
  rw [find?, matchWithin_isSome]
  constructor
  · rintro ⟨first, -, within, found⟩
    have inside : first ≤ text.size := by omega
    obtain ⟨last, whole⟩ := (matchAt_isSome inside).mp found
    exact ⟨first, last, inside, whole⟩
  · rintro ⟨first, last, inside, whole⟩
    exact ⟨first, Nat.zero_le _, by omega, (matchAt_isSome inside).mpr ⟨last, whole⟩⟩

/-- Patterns in a row match if the first does and the others do from where it ends. -/
theorem matches_seqAll_cons {patterns : List Pattern} {first last : Nat} :
    (seqAll (pattern :: patterns)).Matches text first last ↔
      ∃ middle, pattern.Matches text first middle ∧
        (seqAll patterns).Matches text middle last := by
  cases patterns with
  | nil => simp only [seqAll, Matches, exists_eq_right]
  | cons => rfl

/-- Two rows of patterns match in a row if the second does from where the first ends. -/
theorem matches_seqAll_append {patterns others : List Pattern} {first last : Nat} :
    (seqAll (patterns ++ others)).Matches text first last ↔
      ∃ middle, (seqAll patterns).Matches text first middle ∧
        (seqAll others).Matches text middle last := by
  induction patterns generalizing first with
  | nil => simp only [List.nil_append, seqAll, Matches, exists_eq_left']
  | cons pattern patterns ih =>
    simp only [List.cons_append, matches_seqAll_cons, ih]
    constructor
    · rintro ⟨next, head, middle, further, rest⟩
      exact ⟨middle, ⟨next, head, further⟩, rest⟩
    · rintro ⟨middle, ⟨next, head, further⟩, rest⟩
      exact ⟨next, head, middle, further, rest⟩

/-- What stands between the start and the end of a text is found exactly if it matches all of it. -/
theorem find?_whole (patterns : List Pattern) (text : Array Char) :
    ((seqAll (.assertion .textStart :: patterns ++ [.assertion .textEnd])).find? text 0).isSome =
        true ↔ (seqAll patterns).Matches text 0 text.size := by
  rw [find?_isSome]
  simp only [List.cons_append, matches_seqAll_cons, matches_seqAll_append, seqAll, Matches,
    Assertion.holds, beq_iff_eq]
  constructor
  · rintro ⟨_, _, -, _, ⟨rfl, rfl⟩, _, inside, rfl, rfl⟩
    exact inside
  · intro inside
    exact ⟨0, text.size, Nat.zero_le _, 0, ⟨rfl, rfl⟩, text.size, inside, rfl, rfl⟩

end Searching

end Scrutiny.Pattern
