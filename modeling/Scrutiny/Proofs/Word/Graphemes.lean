import Scrutiny.Pattern.Reader
import Scrutiny.Proofs.Pattern.Languages
import Scrutiny.Proofs.Word.Following
import Scrutiny.Proofs.Word.Splitting

/-! # The pattern of graphemes

A word is cut into pieces by reading it once from the left. The pattern for graphemes cuts it in the
same way: the pieces of a word are what is found if this pattern is searched for again and again,
each time from the end of the last match on (`Spelling.pieces_eq_matches`). What its repetitions
prefer is the longest run of marks.
-/

namespace Scrutiny

namespace Pattern

section Greedy

variable {set : CharSet} {groups : List (Nat × Span)}

/-- A set takes a character that is in it. -/
theorem run_one_of_has {before rest : List Char} {c : Char} (member : set.has c = true) :
    (one set).run (before ++ c :: rest).toArray [⟨before.length, groups⟩] =
      [⟨(before ++ [c]).length, groups⟩] := by
  rw [run_one_singleton, getElem?_length, List.length_append]
  exact if_pos member

/-- A set takes nothing at the end, and nothing before a character that is not in it. -/
theorem run_one_of_not {before rest : List Char} (ends : ∀ c ∈ rest.head?, set.has c = false) :
    (one set).run (before ++ rest).toArray [⟨before.length, groups⟩] = [] := by
  rw [run_one_singleton, getElem?_length]
  cases rest with
  | nil => rfl
  | cons c rest => exact if_neg (Bool.eq_false_iff.mp (ends c rfl))

/-- A character of a set is passed, and the rest of the pattern goes on behind it. -/
theorem run_seq_of_has {before rest : List Char} {c : Char} (member : set.has c = true)
    (pattern : Pattern) :
    (seq (one set) pattern).run (before ++ c :: rest).toArray [⟨before.length, groups⟩] =
      pattern.run (before ++ [c] ++ rest).toArray [⟨(before ++ [c]).length, groups⟩] := by
  have passed : (one set).run (before ++ c :: rest).toArray [⟨before.length, groups⟩] =
      [⟨(before ++ [c]).length, groups⟩] := run_one_of_has member
  rw [List.append_cons] at passed ⊢
  exact congrArg (pattern.run _) passed

theorem run_seq_of_not {before rest : List Char} (ends : ∀ c ∈ rest.head?, set.has c = false)
    (pattern : Pattern) :
    (seq (one set) pattern).run (before ++ rest).toArray [⟨before.length, groups⟩] = [] :=
  (congrArg (pattern.run _) (run_one_of_not ends)).trans (run_nil _ pattern)

variable {cs rest : List Char} (inside : ∀ c ∈ cs, set.has c = true)
  (ends : ∀ c ∈ rest.head?, set.has c = false)

include inside ends

/-- A repetition that goes on where it can comes to the end of a run of characters first. -/
theorem head?_again {before : List Char} {origin bound : Nat} {seen : List Nat}
    (away : origin < before.length) (passed : ∀ place ∈ seen, place < before.length)
    (room : cs.length < bound) :
    (again (fun thread => (one set).run (before ++ (cs ++ rest)).toArray [thread]) true origin
      bound seen ⟨before.length, groups⟩).2.head? = some ⟨before.length + cs.length, groups⟩ := by
  induction cs generalizing before bound seen with
  | nil =>
    obtain ⟨bound, rfl⟩ := Nat.exists_eq_add_one_of_ne_zero (Nat.ne_zero_of_lt room)
    have unseen : before.length ∉ seen := fun member => Nat.lt_irrefl _ (passed _ member)
    rw [again_away unseen (Nat.ne_of_gt away), List.nil_append, run_one_of_not ends, rounds_nil]
    rfl
  | cons c cs ih =>
    obtain ⟨bound, rfl⟩ := Nat.exists_eq_add_one_of_ne_zero (Nat.ne_zero_of_lt room)
    obtain ⟨member, others⟩ := List.forall_mem_cons.mp inside
    have unseen : before.length ∉ seen := fun member => Nat.lt_irrefl _ (passed _ member)
    have longer : (before ++ [c]).length = before.length + 1 := List.length_append
    have onward : (again (fun thread => (one set).run (before ++ [c] ++ (cs ++ rest)).toArray
        [thread]) true origin bound (before.length :: seen)
          ⟨(before ++ [c]).length, groups⟩).2.head? =
        some ⟨(before ++ [c]).length + cs.length, groups⟩ :=
      ih others (longer ▸ Nat.lt_succ_of_lt away)
        (List.forall_mem_cons.mpr ⟨longer ▸ Nat.lt_succ_self _, fun place among =>
          longer ▸ Nat.lt_succ_of_lt (passed place among)⟩) (Nat.lt_of_succ_lt_succ room)
    rw [again_away unseen (Nat.ne_of_gt away), List.cons_append, run_one_of_has member, rounds_cons,
      rounds_nil, List.append_cons before c]
    simp only [prefer, ↓reduceIte, List.append_nil, List.head?_append, onward]
    rw [longer, List.length_cons, Nat.add_right_comm, Nat.add_assoc]
    rfl

/-- One or more characters of a set are taken as far as they go. -/
theorem head?_oneOrMore {before : List Char} {c : Char} (member : set.has c = true)
    {bound : Nat} (room : cs.length < bound) :
    (oneOrMore (fun thread => (one set).run (before ++ c :: (cs ++ rest)).toArray [thread]) true
      bound ⟨before.length, groups⟩).head? = some ⟨before.length + (cs.length + 1), groups⟩ := by
  have longer : (before ++ [c]).length = before.length + 1 := List.length_append
  have onward : (again (fun thread => (one set).run (before ++ [c] ++ (cs ++ rest)).toArray
      [thread]) true before.length bound [] ⟨(before ++ [c]).length, groups⟩).2.head? =
      some ⟨(before ++ [c]).length + cs.length, groups⟩ :=
    head?_again inside ends (longer ▸ Nat.lt_succ_self _)
      (fun _ none => absurd none List.not_mem_nil) room
  rw [oneOrMore, run_one_of_has member, rounds_cons, rounds_nil, List.append_cons before c,
    List.append_nil, onward, longer, Nat.add_right_comm, Nat.add_assoc]

/-- A greedy repetition from one round on takes the longest run, and takes it first. -/
theorem head?_run_plus {before : List Char} {c : Char} (member : set.has c = true) :
    ((rep 1 none true (one set)).run (before ++ c :: (cs ++ rest)).toArray
      [⟨before.length, groups⟩]).head? = some ⟨before.length + (cs.length + 1), groups⟩ := by
  rw [run, Thread.head?_distinct, times, List.flatMap_singleton]
  exact head?_oneOrMore inside ends member (by simp; omega)

/-- A greedy repetition from no round on takes the longest run, and takes it first. -/
theorem head?_run_star {before : List Char} :
    ((rep 0 none true (one set)).run (before ++ (cs ++ rest)).toArray
      [⟨before.length, groups⟩]).head? = some ⟨before.length + cs.length, groups⟩ := by
  rw [run, Thread.head?_distinct, List.flatMap_singleton]
  cases cs with
  | nil =>
    rw [oneOrMore, List.nil_append, run_one_of_not ends, rounds_nil]
    rfl
  | cons c cs =>
    obtain ⟨member, others⟩ := List.forall_mem_cons.mp inside
    simp only [prefer, ↓reduceIte, List.head?_append, List.cons_append]
    rw [head?_oneOrMore others ends member (by simp; omega)]
    rfl

end Greedy

/-- The first that alternatives find is that of the left one, or else that of the right one. -/
theorem head?_run_alt (text : Array Char) (left right : Pattern) (thread : Thread) :
    ((alt left right).run text [thread]).head? =
      (left.run text [thread]).head?.or (right.run text [thread]).head? := by
  rw [run, Thread.head?_distinct, List.flatMap_singleton, List.head?_append]

/-- What is found if a pattern is searched for again and again, from a place on: each match begins
where the one before it has ended, or after that. None of the matches is empty. -/
inductive Iterates (pattern : Pattern) (text : Array Char) : Nat → List Match → Prop
  | stop {place : Nat} : pattern.find? text place = none → Iterates pattern text place []
  | next {place : Nat} {found : Match} {more : List Match} :
      pattern.find? text place = some found → found.span.first < found.span.last →
        Iterates pattern text found.span.last more → Iterates pattern text place (found :: more)

/-- There is one way to search again and again. -/
theorem Iterates.unique {pattern : Pattern} {text : Array Char} {place : Nat}
    {matches₁ matches₂ : List Match} (one : pattern.Iterates text place matches₁)
    (two : pattern.Iterates text place matches₂) : matches₁ = matches₂ := by
  induction one generalizing matches₂ with
  | stop absent =>
    cases two with
    | stop => rfl
    | next found => exact absurd (absent.symm.trans found) (Option.some_ne_none _).symm
  | next found _ _ ih =>
    cases two with
    | stop absent => exact absurd (absent.symm.trans found) (Option.some_ne_none _).symm
    | next other _ further =>
      obtain rfl := Option.some.inj (found.symm.trans other)
      rw [ih further]

/-- A match at the place where a search starts is what the search finds. -/
theorem find?_of_matchAt {pattern : Pattern} {text : Array Char} {place : Nat} {found : Match}
    (within : place ≤ text.size) (here : pattern.matchAt text place = some found) :
    pattern.find? text place = some found := by
  rw [find?, Nat.sub_add_comm within, matchWithin, here]

end Pattern

namespace Word

namespace Spelling

open Pattern

/-- The characters that join the one before them. -/
def markSet : CharSet :=
  .named Text.isMark

/-- A backslash with the character that it escapes and the marks of that one. -/
def escapedPattern : Pattern :=
  .seq .empty (.seq (.one (.single '\\')) (.seq (.one .all) (.rep 0 none true (.one markSet))))

/-- A character with its marks. -/
def plainPattern : Pattern :=
  .seq (.one (.complement markSet)) (.rep 0 none true (.one markSet))

/-- Marks that have nothing to join. -/
def marksPattern : Pattern :=
  .rep 1 none true (.one markSet)

/-- The pattern of graphemes. -/
def graphemePattern : Pattern :=
  .alt escapedPattern (.alt plainPattern marksPattern)

/-- The pattern is what its text is read as. -/
theorem read?_graphemePattern :
    Pattern.read? false "(?s)\\\\.\\p{M}*|\\P{M}\\p{M}*|\\p{M}+" = some graphemePattern := rfl

section Preferring

variable {before marks rest : List Char}

/-- Behind a character that they may follow, marks are taken as far as they go. -/
theorem head?_run_marks (all : ∀ mark ∈ marks, Text.isMark mark = true)
    (bare : ∀ c ∈ rest.head?, Text.isMark c = false) :
    ((rep 0 none true (one markSet)).run (before ++ (marks ++ rest)).toArray
      [⟨before.length, []⟩]).head? = some ⟨(before ++ marks).length, []⟩ := by
  rw [List.length_append]
  exact head?_run_star all bare

/-- The escaped character and the marks behind it are one match. -/
theorem head?_run_escaped (all : ∀ mark ∈ marks, Text.isMark mark = true)
    (bare : ∀ c ∈ rest.head?, Text.isMark c = false) (c : Char) :
    (escapedPattern.run (before ++ '\\' :: c :: (marks ++ rest)).toArray
      [⟨before.length, []⟩]).head? =
        some ⟨(before ++ '\\' :: c :: marks).length, []⟩ := by
  have sign : (CharSet.single '\\').has '\\' = true := rfl
  have any : CharSet.all.has c = true := rfl
  refine (congrArg List.head? ((run_seq_of_has sign _).trans (run_seq_of_has any _))).trans ?_
  rw [head?_run_marks all bare]
  simp

/-- What begins with no backslash, or with one and nothing behind it, is not escaped. -/
theorem run_escaped_of_ne {c : Char} (lone : c = '\\' → rest = []) :
    escapedPattern.run (before ++ c :: rest).toArray [⟨before.length, []⟩] = [] := by
  by_cases sign : c = '\\'
  · obtain rfl := lone sign
    have passed : (CharSet.single '\\').has c = true := by rw [sign]; rfl
    exact (run_seq_of_has passed _).trans (run_seq_of_not (by simp) _)
  · refine run_seq_of_not (fun d first => ?_) _
    obtain rfl := Option.some.inj first
    simpa using sign

/-- A character and the marks behind it are one match. -/
theorem head?_run_plain (all : ∀ mark ∈ marks, Text.isMark mark = true)
    (bare : ∀ c ∈ rest.head?, Text.isMark c = false) {c : Char} (plain : Text.isMark c = false) :
    (plainPattern.run (before ++ c :: (marks ++ rest)).toArray [⟨before.length, []⟩]).head? =
      some ⟨(before ++ c :: marks).length, []⟩ := by
  have other : (CharSet.complement markSet).has c = true := by simp [markSet, CharSet.has, plain]
  rw [plainPattern, run_seq_of_has other, head?_run_marks all bare]
  simp

/-- A mark is not the start of a plain grapheme. -/
theorem run_plain_of_isMark {c : Char} (joins : Text.isMark c = true) :
    plainPattern.run (before ++ c :: rest).toArray [⟨before.length, []⟩] = [] := by
  refine run_seq_of_not (fun d first => ?_) _
  obtain rfl := Option.some.inj first
  simp [markSet, CharSet.has, joins]

/-- Nothing is matched at the end of a text. -/
theorem matchAt_graphemePattern_end (before : List Char) :
    graphemePattern.matchAt before.toArray before.length = none := by
  have ends (set : CharSet) : ∀ c ∈ ([] : List Char).head?, set.has c = false := nofun
  have escaped : escapedPattern.run (before ++ []).toArray [⟨before.length, []⟩] = [] :=
    run_seq_of_not (ends _) _
  have plain : plainPattern.run (before ++ []).toArray [⟨before.length, []⟩] = [] :=
    run_seq_of_not (ends _) _
  have marks : marksPattern.run (before ++ []).toArray [⟨before.length, []⟩] = [] := by
    rw [marksPattern, run, times, List.flatMap_singleton, oneOrMore, run_one_of_not (ends _)]
    rfl
  rw [List.append_nil] at escaped plain marks
  rw [matchAt, graphemePattern, head?_run_alt, head?_run_alt, escaped, plain, marks]
  rfl

/-- A piece at the place is the preferred match there. -/
theorem matchAt_graphemePattern {piece : List Char} (formed : Piece piece)
    (lone : piece = ['\\'] → rest = []) (bare : ∀ c ∈ rest.head?, Text.isMark c = false) :
    graphemePattern.matchAt (before ++ (piece ++ rest)).toArray before.length =
      some ⟨⟨before.length, (before ++ piece).length⟩, []⟩ := by
  have preferred : (graphemePattern.run (before ++ (piece ++ rest)).toArray
      [⟨before.length, []⟩]).head? = some ⟨(before ++ piece).length, []⟩ := by
    rw [graphemePattern, head?_run_alt, head?_run_alt]
    -- The alternatives are tried in their order, and each kind of piece is left to one of them.
    cases formed with
    | @plain c marks other all =>
      rw [List.cons_append, run_escaped_of_ne fun same => absurd same other, List.head?_nil,
        Option.none_or]
      cases kind : Text.isMark c with
      | false => rw [head?_run_plain all bare kind, Option.some_or]
      | true =>
        have joins : markSet.has c = true := kind
        rw [run_plain_of_isMark kind, List.head?_nil, Option.none_or, marksPattern,
          head?_run_plus all bare joins, List.length_append]
        rfl
    | @escaped c marks all =>
      rw [List.cons_append, List.cons_append, head?_run_escaped all bare, Option.some_or]
    | backslash =>
      obtain rfl := lone rfl
      have none : ∀ mark ∈ ([] : List Char), Text.isMark mark = true :=
        fun _ absent => absurd absent List.not_mem_nil
      rw [List.singleton_append, run_escaped_of_ne fun _ => rfl, List.head?_nil, Option.none_or]
      exact congrArg (Option.or · _) (head?_run_plain none bare isMark_backslash)
  rw [matchAt, preferred]
  rfl

end Preferring

/-- Pieces that can be told apart are what is found one after the other. -/
theorem Cut.iterates {cut : List (List Char)} (fits : Cut cut) (before : List Char) :
    ∃ found, graphemePattern.Iterates (before ++ cut.flatten).toArray before.length found ∧
      cut = found.map fun m =>
        ((before ++ cut.flatten).take m.span.last).drop m.span.first := by
  induction cut generalizing before with
  | nil =>
    refine ⟨[], .stop ?_, rfl⟩
    rw [List.flatten_nil, List.append_nil, find?, List.size_toArray, Nat.add_sub_cancel_left,
      matchWithin, matchAt_graphemePattern_end]
    rfl
  | cons piece cut ih =>
    have formed := fits.formed piece List.mem_cons_self
    have lone : piece = ['\\'] → cut.flatten = [] := by
      rintro rfl
      rw [fits.lone, List.flatten_nil]
    obtain ⟨found, further, slices⟩ := ih fits.tail (before ++ piece)
    rw [List.append_assoc] at further slices
    have here : graphemePattern.matchAt (before ++ (piece ++ cut.flatten)).toArray before.length =
        some ⟨⟨before.length, (before ++ piece).length⟩, []⟩ :=
      matchAt_graphemePattern formed lone fits.bare
    have longer : before.length < (before ++ piece).length := by
      rw [List.length_append]
      exact Nat.lt_add_of_pos_right (List.length_pos_iff.mpr formed.ne_nil)
    rw [List.flatten_cons]
    refine ⟨_ :: found, .next (find?_of_matchAt ?_ here) longer further, ?_⟩
    · simp
    · rw [List.map_cons, ← slices, ← List.append_assoc, List.take_left, List.drop_left]

/-- **Pieces are the matches of the pattern of graphemes.** Searched for again and again, the
pattern finds the pieces of a word one after the other. -/
theorem pieces_eq_matches : ∃ pattern,
    Pattern.read? false "(?s)\\\\.\\p{M}*|\\P{M}\\p{M}*|\\p{M}+" = some pattern ∧
      ∀ body : List Char, ∃ found, pattern.Iterates body.toArray 0 found ∧
        pieces body = found.map fun m => (body.take m.span.last).drop m.span.first := by
  refine ⟨graphemePattern, read?_graphemePattern, fun body => ?_⟩
  have cut := (cut_pieces body).iterates []
  rwa [flatten_pieces] at cut

end Spelling

end Word

end Scrutiny
