import Scrutiny.Proofs.Pattern.Embedding
import Scrutiny.Proofs.Pattern.Meaning

/-! # Patterns without groups

Reading only makes repetitions that have room for the rounds they ask for (`bounded_of_read?`). So
a pattern whose count of groups is zero never enters one, and following threads through it leaves
their groups as they are (`run_groupless`). What such a pattern matches depends on its structure
alone (`Alike.run_eq`).
-/

namespace Scrutiny.Pattern

/-- Every repetition has room for the rounds that it asks for. -/
def Bounded : Pattern → Prop
  | empty => True
  | one _ => True
  | assertion _ => True
  | group _ body => body.Bounded
  | seq first second => first.Bounded ∧ second.Bounded
  | alt first second => first.Bounded ∧ second.Bounded
  | rep least most _ body => (∀ limit, most = some limit → least ≤ limit) ∧ body.Bounded

/-- A bounded pattern without groups never enters one. -/
theorem Bounded.groupless {pattern : Pattern} (bounded : pattern.Bounded)
    (none : pattern.groupCount = 0) : pattern.Groupless := by
  induction pattern with
  | empty => trivial
  | one => trivial
  | assertion => trivial
  | group => exact nomatch none
  | seq first second ihFirst ihSecond =>
    obtain ⟨one, two⟩ := Nat.add_eq_zero_iff.mp none
    exact ⟨ihFirst bounded.1 one, ihSecond bounded.2 two⟩
  | alt first second ihFirst ihSecond =>
    obtain ⟨one, two⟩ := Nat.add_eq_zero_iff.mp none
    exact ⟨ihFirst bounded.1 one, ihSecond bounded.2 two⟩
  | rep least most greedy body ih =>
    by_cases never : most = some 0
    · exact .inl ⟨Nat.le_zero.mp (bounded.1 0 never), never⟩
    · simp only [groupCount, if_neg never] at none
      exact .inr (ih bounded.2 none)

section Reading

theorem Bounded.seqAll {patterns : List Pattern} (all : ∀ pattern ∈ patterns, pattern.Bounded) :
    (seqAll patterns).Bounded := by
  induction patterns with
  | nil => trivial
  | cons first rest ih =>
    have later := ih fun pattern member => all pattern (List.mem_cons_of_mem _ member)
    cases rest with
    | nil => exact all first List.mem_cons_self
    | cons => exact ⟨all first List.mem_cons_self, later⟩

theorem Bounded.altAll {patterns : List Pattern} (all : ∀ pattern ∈ patterns, pattern.Bounded) :
    (altAll patterns).Bounded := by
  induction patterns with
  | nil => trivial
  | cons first rest ih =>
    have later := ih fun pattern member => all pattern (List.mem_cons_of_mem _ member)
    cases rest with
    | nil => exact all first List.mem_cons_self
    | cons => exact ⟨all first List.mem_cons_self, later⟩

/-- A level all of whose parts are bounded. -/
structure Level.Bounded (level : Level) : Prop where
  alternatives : ∀ piece ∈ level.alternatives, piece.pattern.Bounded
  items : ∀ piece ∈ level.items, piece.pattern.Bounded

/-- A sequence is the patterns of its items in the order of the text. -/
theorem Level.sequence_pattern (level : Level) :
    level.sequence.pattern = seqAll (level.items.reverse.map Piece.pattern) := by
  obtain ⟨alternatives, items⟩ := level
  match items with
  | [] => rfl
  | [only] => rfl
  | _ :: _ :: _ => rfl

/-- What is read of an alternative so far is bounded. -/
theorem Level.Bounded.sequence {level : Level} (bounded : level.Bounded) :
    level.sequence.pattern.Bounded := by
  rw [Level.sequence_pattern]
  refine .seqAll fun pattern member => ?_
  obtain ⟨piece, among, rfl⟩ := List.mem_map.mp member
  exact bounded.items piece (List.mem_reverse.mp among)

theorem Level.Bounded.finish {level : Level} (bounded : level.Bounded) :
    level.finish.pattern.Bounded := by
  have sequence := bounded.sequence
  obtain ⟨alternatives, items⟩ := level
  cases alternatives with
  | nil => exact sequence
  | cons first rest =>
    refine .altAll fun pattern member => ?_
    obtain ⟨piece, among, rfl⟩ := List.mem_map.mp member
    rcases List.mem_cons.mp (List.mem_reverse.mp among) with rfl | before
    · exact sequence
    · exact bounded.alternatives piece before

/-- A bounded pattern can be put at the end of a level. -/
theorem Level.Bounded.push {level : Level} (bounded : level.Bounded) {piece : Piece}
    (new : piece.pattern.Bounded) : (level.push piece).Bounded :=
  ⟨bounded.alternatives, List.forall_mem_cons.mpr ⟨new, bounded.items⟩⟩

/-- A state in which only bounded parts have been read. -/
structure ReaderState.Bounded (state : ReaderState) : Prop where
  level : state.level.Bounded
  opened : ∀ group ∈ state.opened, group.outer.Bounded

/-- An action that adds only bounded parts. -/
def Action.Bounded : Action → Prop
  | .item pattern _ => pattern.Bounded
  | .repetition least most _ => ∀ limit, most = some limit → least ≤ limit
  | _ => True

/-- The bounds of a repetition that are read leave room for the rounds asked for. -/
theorem bounds?_bounded {cs : List Char} {least limit : Nat}
    (read : bounds? cs = some (least, some limit)) : least ≤ limit := by
  unfold bounds? at read
  simp only at read
  split at read
  · obtain ⟨_, _, same⟩ := Option.map_eq_some_iff.mp read
    cases same
    exact Nat.le_refl _
  · obtain ⟨_, _, same⟩ := Option.map_eq_some_iff.mp read
    exact nomatch same
  · simp only [Option.bind_eq_bind, Option.bind_eq_some_iff, Option.ite_none_right_eq_some] at read
    obtain ⟨_, _, _, _, ordered, same⟩ := read
    cases same
    exact ordered

theorem pattern?_bounded {flags : Flags} {item : Primitive} {pattern : Pattern}
    (known : item.pattern? flags = some pattern) : pattern.Bounded := by
  cases item with
  | literal c byte =>
    simp only [Primitive.pattern?, Option.ite_none_right_eq_some] at known
    cases known.2
    trivial
  | dot =>
    simp only [Primitive.pattern?, Option.ite_none_left_eq_some] at known
    obtain ⟨_, known⟩ := known
    split at known
    · cases known
      trivial
    · split at known <;> cases known <;> trivial
  | assertion condition =>
    cases known
    trivial
  | set members =>
    cases known
    trivial

/-- What opens a group asks for nothing that is not bounded. -/
theorem decodeGroup_bounded {flags : Flags} {cs rest : List Char} {action : Action}
    (asked : decodeGroup flags cs = some (action, rest)) : action.Bounded := by
  have named {cs : List Char} (asked : decodeName flags cs = some (action, rest)) :
      action.Bounded := by
    obtain ⟨_, _, same⟩ := Option.map_eq_some_iff.mp asked
    cases same
    trivial
  unfold decodeGroup decodeMarked at asked
  split at asked
  · split at asked
    · exact named asked
    · exact named asked
    · obtain ⟨_, _, result⟩ := Option.bind_eq_some_iff.mp asked
      split at result
      · cases result
        trivial
      · rw [Option.ite_none_left_eq_some] at result
        cases result.2
        trivial
  · cases asked
    trivial

/-- No sign asks for anything that is not bounded. -/
theorem decode_bounded {flags : Flags} {c : Char} {cs rest : List Char} {action : Action}
    (asked : decode flags c cs = some (action, rest)) : action.Bounded := by
  have primitive {item : Primitive} {cs : List Char}
      (asked : ((item.pattern? flags).map fun pattern => (Action.item pattern 0, cs)) =
        some (action, rest)) : action.Bounded := by
    obtain ⟨_, known, same⟩ := Option.map_eq_some_iff.mp asked
    cases same
    exact pattern?_bounded known
  unfold decode at asked
  simp only at asked
  split at asked
  · exact decodeGroup_bounded asked
  · cases asked
    trivial
  · cases asked
    trivial
  · obtain ⟨_, _, same⟩ := Option.map_eq_some_iff.mp asked
    cases same
    trivial
  · cases asked
    rintro limit ⟨⟩
    exact Nat.zero_le _
  · cases asked
    exact nofun
  · cases asked
    exact nofun
  · obtain ⟨_, _, result⟩ := Option.bind_eq_some_iff.mp asked
    obtain ⟨⟨least, most⟩, counted, same⟩ := Option.map_eq_some_iff.mp result
    cases same
    rintro limit rfl
    exact bounds?_bounded counted
  · obtain ⟨_, _, known⟩ := Option.bind_eq_some_iff.mp asked
    exact primitive known
  · exact primitive asked
  · exact primitive asked
  · exact primitive asked
  · exact primitive asked

theorem closeGroup_bounded {state next : ReaderState} (bounded : state.Bounded)
    (closes : closeGroup state = some next) : next.Bounded := by
  obtain ⟨flags, level, opened, nextGroup, names⟩ := state
  cases opened with
  | nil => exact nomatch closes
  | cons innermost opened =>
    cases closes
    obtain ⟨outer, others⟩ := List.forall_mem_cons.mp bounded.opened
    refine ⟨outer.push ?_, others⟩
    cases innermost.index with
    | none => exact bounded.level.finish
    | some => exact bounded.level.finish

/-- Each action keeps all patterns of the state bounded. -/
theorem apply_bounded {state next : ReaderState} {action : Action} (bounded : state.Bounded)
    (new : action.Bounded) (applied : state.apply action = some next) : next.Bounded := by
  have fresh : Level.Bounded {} := ⟨List.forall_mem_nil _, List.forall_mem_nil _⟩
  cases action with
  | enter name numbered flags =>
    cases name with
    | none =>
      cases applied
      exact ⟨fresh, List.forall_mem_cons.mpr ⟨bounded.level, bounded.opened⟩⟩
    | some name =>
      simp only [ReaderState.apply, Option.ite_none_left_eq_some] at applied
      cases applied.2
      exact ⟨fresh, List.forall_mem_cons.mpr ⟨bounded.level, bounded.opened⟩⟩
  | switch flags =>
    cases applied
    exact ⟨bounded.level.push trivial, bounded.opened⟩
  | leave => exact closeGroup_bounded bounded applied
  | alternative =>
    cases applied
    exact ⟨⟨List.forall_mem_cons.mpr ⟨bounded.level.sequence, bounded.level.alternatives⟩,
      List.forall_mem_nil _⟩, bounded.opened⟩
  | item pattern depth =>
    cases applied
    exact ⟨bounded.level.push new, bounded.opened⟩
  | repetition least most lazy =>
    obtain ⟨flags, ⟨alternatives, items⟩, opened, nextGroup, names⟩ := state
    cases items with
    | nil => cases applied
    | cons last items =>
      simp only [ReaderState.apply, repeatLast, Option.ite_none_left_eq_some] at applied
      cases applied.2
      obtain ⟨before, others⟩ := List.forall_mem_cons.mp bounded.level.items
      exact ⟨⟨bounded.level.alternatives, List.forall_mem_cons.mpr ⟨⟨new, before⟩, others⟩⟩,
        bounded.opened⟩

/-- A pattern text only asks for repetitions that have room. -/
theorem readLoop_bounded {bound : Nat} {state : ReaderState} {cs : List Char} {piece : Piece}
    (bounded : state.Bounded) (read : readLoop bound state cs = some piece) :
    piece.pattern.Bounded := by
  induction bound generalizing state cs with
  | zero => exact nomatch read
  | succ bound ih =>
    cases left : state.flags.skip cs with
    | nil =>
      obtain ⟨_, rfl⟩ := readLoop_over_some left read
      exact bounded.level.finish
    | cons c rest =>
      obtain ⟨action, after, next, asked, applied, read⟩ := readLoop_step_some left read
      exact ih (apply_bounded bounded (decode_bounded asked) applied) read

end Reading

/-- Every pattern that is read is bounded. -/
theorem bounded_of_read? {ignoreCase : Bool} {text : String} {pattern : Pattern}
    (read : read? ignoreCase text = some pattern) : pattern.Bounded := by
  obtain ⟨piece, whole, result⟩ := Option.bind_eq_some_iff.mp read
  rw [Option.ite_none_right_eq_some] at result
  cases result.2
  exact readLoop_bounded
    ⟨⟨List.forall_mem_nil _, List.forall_mem_nil _⟩, List.forall_mem_nil _⟩ whole

section Running

variable {text : Array Char} {pattern other : Pattern}

/-- Groups of the same kind: two threads at a place whose groups correspond by a function. -/
def Regrouped (change : List (Nat × Span) → List (Nat × Span)) (left right : Thread) : Prop :=
  right = ⟨left.place, change left.groups⟩

/-- Threads whose groups differ by a change that is made to all of them are tied. -/
theorem tied_regrouped (change : List (Nat × Span) → List (Nat × Span)) :
    Tied (Regrouped change) where
  place same := same ▸ rfl
  move _ same := same ▸ rfl

/-- Without groups to close, a match does not depend on the groups matched before. -/
theorem run_groupless (groupless : pattern.Groupless) (thread : Thread) :
    pattern.run text [thread] =
      (Thread.places (pattern.run text [⟨thread.place, []⟩])).map fun place =>
        ⟨place, thread.groups⟩ := by
  have start : Regrouped (fun _ => thread.groups) ⟨thread.place, []⟩ thread := rfl
  have related := run_tied (tied_regrouped fun _ => thread.groups) text pattern (.inl groupless)
    (.cons start .nil)
  unfold Thread.places
  rw [List.map_map, ← List.forall₂_eq_eq_eq, List.forall₂_map_right_iff]
  exact related.flip

/-- Only the structure of a pattern counts. -/
theorem Alike.run_eq (alike : pattern.Alike .kept other) (groupless : pattern.Groupless)
    (threads : List Thread) : other.run text threads = pattern.run text threads := by
  induction alike generalizing threads with
  | empty => rfl
  | one sets => rw [sets.same rfl]
  | assertion => rfl
  | group => exact groupless.elim
  | seq _ _ one two => simp only [run, one groupless.1, two groupless.2]
  | alt _ _ one two => simp only [run, one groupless.1, two groupless.2]
  | rep least most greedy _ ih =>
    by_cases idle : least = 0 ∧ most = some 0
    · obtain ⟨rfl, rfl⟩ := idle
      rfl
    · have same := funext (ih (groupless.resolve_left idle))
      simp only [run, same]

/-- A pattern like one that enters no group enters none. -/
theorem Alike.groupless (alike : pattern.Alike .kept other) (groupless : pattern.Groupless) :
    other.Groupless := by
  induction alike with
  | empty => trivial
  | one => trivial
  | assertion => trivial
  | group => exact groupless.elim
  | seq _ _ one two => exact ⟨one groupless.1, two groupless.2⟩
  | alt _ _ one two => exact ⟨one groupless.1, two groupless.2⟩
  | rep least most greedy _ ih => exact groupless.imp_right ih

end Running

end Scrutiny.Pattern
