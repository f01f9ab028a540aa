import Scrutiny.Proofs.Pattern.Groupless
import Scrutiny.Proofs.Word.Occurrence

/-! # Following the pattern of a word

What a part of a word's pattern does to a thread is compared with the ways to fill the slot that it
comes from. The order is the same, and every masked unit leaves one more group in a thread.
-/

namespace Scrutiny

namespace Pattern

theorem run_nil (text : Array Char) (pattern : Pattern) : pattern.run text [] = [] := by
  have apart : (Thread.places []).Nodup := List.nodup_nil
  rw [run_eq_distinct text pattern apart]
  rfl

/-- Patterns in a row are followed one after the other. -/
theorem run_seqAll_cons (text : Array Char) (first : Pattern) (rest : List Pattern)
    (threads : List Thread) :
    (seqAll (first :: rest)).run text threads =
      (seqAll rest).run text (first.run text threads) := by
  cases rest with
  | nil => rfl
  | cons => rfl

/-- Rows of patterns are followed one after the other. -/
theorem run_seqAll_append (text : Array Char) (parts more : List Pattern)
    (threads : List Thread) :
    (seqAll (parts ++ more)).run text threads =
      (seqAll more).run text ((seqAll parts).run text threads) := by
  induction parts generalizing threads with
  | nil => rfl
  | cons first parts ih => rw [List.cons_append, run_seqAll_cons, run_seqAll_cons, ih]

/-- A set takes a thread one character on, if that is in the set. -/
theorem run_one_singleton (text : Array Char) (set : CharSet) (thread : Thread) :
    (one set).run text [thread] =
      match text[thread.place]? with
      | some c => if set.has c then [⟨thread.place + 1, thread.groups⟩] else []
      | none => [] := by
  unfold run
  rw [List.filterMap_cons, List.filterMap_nil]
  cases text[thread.place]? with
  | none => rfl
  | some c =>
    by_cases member : set.has c = true <;>
      simp only [member, ↓reduceIte, Bool.false_eq_true]

theorem run_assertion_singleton (text : Array Char) (condition : Assertion) (thread : Thread) :
    (assertion condition).run text [thread] =
      if condition.holds text thread.place then [thread] else [] := by
  unfold run
  rw [List.filter_cons, List.filter_nil]

end Pattern

open Pattern

namespace Word

section Following

variable {tolerance : Tolerance} {masking : Bool} {text : Array Char}

/-- All groups of a thread have numbers below a bound. -/
def Below (bound : Nat) (thread : Thread) : Prop :=
  ∀ entry ∈ thread.groups, entry.1 < bound

theorem Below.mono {bound more : Nat} {thread : Thread} (below : Below bound thread)
    (larger : bound ≤ more) : Below more thread :=
  fun entry member => Nat.lt_of_lt_of_le (below entry member) larger

/-- A thread that has gone on from another as a way to fill slots says. -/
structure Continues (thread : Thread) (bound : Nat) (filling : List Stand × Nat) (next : Thread) :
    Prop where
  place : next.place = filling.2
  groups : next.groups.length = thread.groups.length + filling.1.count .masked
  below : Below bound next

/-- Parts of a pattern take threads along the ways to fill a slot, in the same order. The groups of
these parts are numbered from one bound up to another. -/
def Realizes (tolerance : Tolerance) (masking : Bool) (text : Array Char) (slot : Slot)
    (low high : Nat) (parts : List Pattern) : Prop :=
  ∀ thread, Below low thread → ∃ tries, (seqAll parts).run text [thread] = Thread.distinct tries ∧
    List.Forall₂ (Continues thread high) (slot.fillings tolerance masking text thread.place) tries

/-- Threads without a new group are at the given places. -/
theorem forall₂_continues {thread : Thread} {bound : Nat} (below : Below bound thread)
    {stands : List Stand} (unmasked : stands.count .masked = 0) (places : List Nat) :
    List.Forall₂ (Continues thread bound) (places.map fun last => (stands, last))
      (places.map fun last => ⟨last, thread.groups⟩) := by
  rw [List.forall₂_map_left_iff, List.forall₂_map_right_iff, List.forall₂_same]
  exact fun place _ => ⟨rfl, unmasked ▸ rfl, below⟩

/-- A pattern without groups, read in another place. -/
theorem run_eq_ends {pattern body : Pattern} (alike : pattern.Alike .kept body)
    (groupless : pattern.Groupless) (thread : Thread) :
    body.run text [thread] =
      (pattern.ends text thread.place).map fun last => ⟨last, thread.groups⟩ := by
  rw [alike.run_eq groupless]
  exact run_groupless groupless thread

/-- The threads that a match makes of one thread are distinct. -/
theorem distinct_run (pattern : Pattern) (thread : Thread) :
    pattern.run text [thread] = Thread.distinct (pattern.run text [thread]) :=
  (Thread.distinct_eq_self (nodup_places_run text pattern thread)).symm

/-- Parts that leave groups alone fill a slot if they end at the right places. -/
theorem realizes_of_run {slot : Slot} {parts : List Pattern} {low high : Nat} (larger : low ≤ high)
    (places : Nat → List Nat) (stands : List Stand) (unmasked : stands.count .masked = 0)
    (fillings : ∀ place, slot.fillings tolerance masking text place =
      (places place).map fun last => (stands, last))
    (run : ∀ thread : Thread, (seqAll parts).run text [thread] =
      (places thread.place).map fun last => ⟨last, thread.groups⟩) :
    Realizes tolerance masking text slot low high parts := by
  intro thread below
  refine ⟨_, distinct_run _ thread, ?_⟩
  rw [run, fillings]
  exact forall₂_continues (below.mono larger) unmasked _

/-- A condition on the place fills an anchor. -/
theorem realizes_assertion {slot : Slot} {condition : Assertion}
    (fillings : ∀ place, slot.fillings tolerance masking text place =
      if condition.holds text place then [([], place)] else []) (low : Nat) :
    Realizes tolerance masking text slot low low [.assertion condition] := by
  refine realizes_of_run (Nat.le_refl low)
    (fun place => if condition.holds text place then [place] else []) [] rfl
    (fun place => ?_) fun thread => ?_
  · rw [fillings]
    split <;> rfl
  · rw [seqAll, run_assertion_singleton]
    split <;> rfl

/-- Any number of separators is what the pattern of separators takes. -/
theorem realizes_separators {body : Pattern} (alike : tolerance.separator.Alike .kept body)
    (groupless : tolerance.separator.Groupless) {low high : Nat} (larger : low ≤ high) :
    Realizes tolerance masking text .separators low high [.rep 0 none true body] :=
  realizes_of_run larger _ [] rfl (fun _ => rfl) fun thread =>
    run_eq_ends (.rep 0 none true alike) (.inr groupless) thread

theorem realizes_blank {body : Pattern} (alike : tolerance.blank.Alike .kept body)
    (groupless : tolerance.blank.Groupless) {low high : Nat} (larger : low ≤ high) :
    Realizes tolerance masking text .blank low high [body] :=
  realizes_of_run larger _ [.blank] rfl (fun _ => rfl) fun thread =>
    run_eq_ends alike groupless thread

/-- A set is that of the characters that are among those chosen. -/
def Gives (choice : List Char) (set : CharSet) : Prop :=
  ∀ c, set.has c = choice.contains c

/-- A set is that of the characters that are, in any case, among those chosen. -/
def Admits (choice : List Char) (set : CharSet) : Prop :=
  ∀ c, set.has c = (Text.caseVariants c).any choice.contains

/-- A set that gives the choices admits them with case ignored. -/
theorem admits_anyCase {choice : List Char} {inner : CharSet} (gives : Gives choice inner) :
    Admits choice (.anyCase inner) := fun c =>
  congrArg (Text.caseVariants c).any (funext gives)

/-- Sets one after the other match what is chosen. -/
theorem run_sets {choices : List (List Char)} {sets : List CharSet}
    (admits : List.Forall₂ Admits choices sets) (thread : Thread) :
    (seqAll (sets.map .one)).run text [thread] =
      (chosenEnd text choices thread.place).toList.map fun last => ⟨last, thread.groups⟩ := by
  induction admits generalizing thread with
  | nil => rfl
  | cons same _ ih =>
    rw [List.map_cons, run_seqAll_cons, run_one_singleton, chosenEnd]
    cases text[thread.place]? with
    | none => exact run_nil text _
    | some c =>
      simp only [same c]
      split
      · exact ih _
      · exact run_nil text _

/-- A unit that is not masked is taken character by character, each by one of its choices. -/
theorem realizes_own {u : WordUnit} {sets : List CharSet}
    (admits : List.Forall₂ Admits (tolerance.confusables.choices u) sets) {low high : Nat}
    (larger : low ≤ high) :
    Realizes tolerance false text (.letter u) low high (sets.map .one) :=
  realizes_of_run larger _ [.own] rfl (fun _ => List.append_nil _) (run_sets admits)

/-- A group that has not been matched before adds what it matches. -/
theorem close_below (thread : Thread) {index : Nat} (below : Below index thread) (first : Nat) :
    thread.close index first = ⟨thread.place, (index, ⟨first, thread.place⟩) :: thread.groups⟩ := by
  have kept : thread.groups.filter (fun entry => entry.1 ≠ index) = thread.groups := by
    rw [List.filter_eq_self]
    exact fun entry member => decide_eq_true (below entry member).ne
  rw [Thread.close, kept]

/-- A group takes what its body takes, and notes from where to where. -/
theorem run_group {pattern body : Pattern} (alike : pattern.Alike .kept body)
    (groupless : pattern.Groupless) {index : Nat} {thread : Thread} (below : Below index thread) :
    (group index body).run text [thread] = (pattern.ends text thread.place).map fun last =>
      ⟨last, (index, ⟨thread.place, last⟩) :: thread.groups⟩ := by
  have apart := nodup_places_run text body thread
  rw [run, List.flatMap_singleton, Thread.distinct_eq_self (by rwa [places_map_close]),
    run_eq_ends alike groupless, List.map_map]
  exact List.map_congr_left fun last _ => close_below ⟨last, thread.groups⟩ below _

/-- A unit that may be masked is taken by its characters or, at the cost of a group, by a blank. -/
theorem realizes_letter {u : WordUnit} {sets : List CharSet}
    (admits : List.Forall₂ Admits (tolerance.confusables.choices u) sets) {body : Pattern}
    (alike : tolerance.blank.Alike .kept body) (groupless : tolerance.blank.Groupless)
    {low index high : Nat} (first : low ≤ index) (last : index < high) :
    Realizes tolerance true text (.letter u) low high
      [.alt (seqAll (sets.map .one)) (.group index body)] := by
  intro thread below
  have below' := below.mono first
  refine ⟨(seqAll (sets.map .one)).run text [thread] ++ (group index body).run text [thread],
    ?_, ?_⟩
  · exact congrArg Thread.distinct (List.flatMap_singleton _ _)
  · rw [run_sets admits, run_group alike groupless below', Slot.fillings, if_pos rfl]
    refine List.rel_append (forall₂_continues (below'.mono last.le) rfl _) ?_
    rw [List.forall₂_map_left_iff, List.forall₂_map_right_iff, List.forall₂_same]
    refine fun place _ => ⟨rfl, rfl, List.forall_mem_cons.mpr ⟨last, ?_⟩⟩
    exact below'.mono last.le

/-- Searches that try related candidates in the same order have related results. -/
theorem rel_findSome? {α β γ δ : Type} {R : α → β → Prop} {S : γ → δ → Prop} {left : List α}
    {right : List β} {f : α → Option γ} {g : β → Option δ} (related : List.Forall₂ R left right)
    (each : ∀ a b, R a b → Option.Rel S (f a) (g b)) :
    Option.Rel S (left.findSome? f) (right.findSome? g) := by
  induction related with
  | nil => exact .none
  | @cons a b left right same _ ih =>
    rw [List.findSome?_cons, List.findSome?_cons]
    have here := each a b same
    generalize f a = first at here ⊢
    generalize g b = second at here ⊢
    cases here with
    | none => exact ih
    | some found => exact .some found

/-- The threads of parts and what comes after them have the preferred one of what is tried. -/
theorem head?_run_append {parts more : List Pattern} {thread : Thread} {tries : List Thread}
    (run : (seqAll parts).run text [thread] = Thread.distinct tries) :
    ((seqAll (parts ++ more)).run text [thread]).head? =
      tries.findSome? fun next => ((seqAll more).run text [next]).head? := by
  rw [run_seqAll_append, run, run_eq_distinct text _ (Thread.nodup_places_distinct tries),
    Thread.distinct_flatMap_distinct (placewise_run text _), Thread.head?_distinct,
    List.head?_flatMap]

/-- Parts of a pattern take a thread where the search for a way to fill slots ends. -/
def Finds (tolerance : Tolerance) (masking : Bool) (text : Array Char) (slots : List Slot)
    (low high : Nat) (parts : List Pattern) : Prop :=
  ∀ thread, Below low thread → Option.Rel (Continues thread high)
    (preferred tolerance masking text slots thread.place)
    ((seqAll parts).run text [thread]).head?

theorem finds_nil (low : Nat) : Finds tolerance masking text [] low low [] :=
  fun _ below => .some ⟨rfl, rfl, below⟩

/-- A thread that goes on twice has gone on by both fillings in turn. -/
theorem Continues.trans {thread middle last : Thread} {low high : Nat}
    {one two : List Stand × Nat} (first : Continues thread low one middle)
    (second : Continues middle high two last) :
    Continues thread high (one.1 ++ two.1, two.2) last where
  place := second.place
  groups := by rw [second.groups, first.groups, List.count_append, Nat.add_assoc]
  below := second.below

/-- One slot and the slots after it. -/
theorem Realizes.finds {slot : Slot} {slots : List Slot} {low middle high : Nat}
    {parts more : List Pattern} (here : Realizes tolerance masking text slot low middle parts)
    (later : Finds tolerance masking text slots middle high more) :
    Finds tolerance masking text (slot :: slots) low high (parts ++ more) := by
  intro thread below
  obtain ⟨tries, run, ways⟩ := here thread below
  rw [head?_run_append run]
  refine rel_findSome? ways fun filling next continues => ?_
  have rest := later next continues.below
  rw [continues.place] at rest
  generalize preferred tolerance masking text slots filling.2 = wanted at rest ⊢
  generalize ((seqAll more).run text [next]).head? = found at rest ⊢
  cases rest with
  | none => exact .none
  | some onward => exact .some (continues.trans onward)

end Following

end Word

end Scrutiny
