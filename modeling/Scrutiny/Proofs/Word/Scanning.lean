import Mathlib.Data.String.Basic
import Scrutiny.Proofs.Word.Finding

/-! # Where a search starts again

A search for a word looks for the leftmost match from a byte of the text on. If that match is over
the budget, the search starts again after the first character of the match, until it is beyond the
end of the text (`CompiledWord.Searches`). No place is lost in this way: between a start and the
match that is found from there nothing matches at all. So the search finds what looking at one place
after the other finds, and it starts at bytes where characters begin, each further on than the last
(`CompiledWord.find?_searches`).
-/

namespace Scrutiny

section Firsts

variable {α : Type} {f : Nat → Option α} {start count : Nat} {a : α}

/-- What is found first among consecutive places is found at one of them, and nothing is found at
those before it. -/
theorem findSome?_range'_eq_some_iff :
    (List.range' start count).findSome? f = some a ↔
      ∃ place, start ≤ place ∧ place < start + count ∧ f place = some a ∧
        ∀ earlier, start ≤ earlier → earlier < place → f earlier = none := by
  rw [List.findSome?_eq_some_iff]
  constructor
  · rintro ⟨before, place, rest, split, here, none⟩
    obtain ⟨length, few, rfl, tail⟩ := List.range'_eq_append_iff.mp split
    obtain ⟨left, more⟩ : ∃ left, count - length = left + 1 := by
      refine Nat.exists_eq_succ_of_ne_zero fun zero => ?_
      rw [zero] at tail
      exact nomatch tail
    rw [more, List.range'_succ, Nat.mul_one] at tail
    obtain ⟨rfl, -⟩ := List.cons.inj tail
    refine ⟨_, Nat.le_add_right _ _, by omega, here, fun earlier after before => none _ ?_⟩
    exact List.mem_range'_1.mpr ⟨after, by omega⟩
  · rintro ⟨place, after, within, here, none⟩
    obtain ⟨length, rfl⟩ := Nat.exists_eq_add_of_le after
    refine ⟨List.range' start length, start + length,
      List.range' (start + length + 1) (count - length - 1), ?_, here, fun earlier among => ?_⟩
    · refine List.range'_eq_append_iff.mpr ⟨length, by omega, rfl, ?_⟩
      rw [Nat.mul_one, ← List.range'_succ, Nat.sub_add_cancel (by omega)]
    · obtain ⟨after, before⟩ := List.mem_range'_1.mp among
      exact none earlier after before

/-- A search along a range finds nothing if there is nothing at any of its places. -/
theorem findSome?_range'_eq_none_iff :
    (List.range' start count).findSome? f = none ↔
      ∀ place, start ≤ place → place < start + count → f place = none := by
  simp only [List.findSome?_eq_none_iff, List.mem_range'_1, and_imp]

end Firsts

namespace Pattern

variable {pattern : Pattern} {text : Array Char} {start : Nat} {found : Match}

/-- Looking for a pattern is looking at one place after the other. -/
theorem find?_eq_findSome? :
    pattern.find? text start =
      (List.range' start (text.size + 1 - start)).findSome? (pattern.matchAt text) := by
  unfold find?
  generalize text.size + 1 - start = count
  induction count generalizing start with
  | zero => rfl
  | succ count ih =>
    rw [matchWithin, List.range'_succ, List.findSome?_cons, ih]
    cases pattern.matchAt text start <;> rfl

/-- The leftmost match from a place on is the match preferred where it begins, and the pattern
matches nowhere between the place and that match. -/
structure Leftmost (pattern : Pattern) (text : Array Char) (start : Nat) (found : Match) :
    Prop where
  after : start ≤ found.span.first
  within : found.span.first ≤ text.size
  preferred : pattern.matchAt text found.span.first = some found
  earlier : ∀ place, start ≤ place → place < found.span.first → pattern.matchAt text place = none

/-- What is found is the leftmost match. -/
theorem find?_eq_some_iff :
    pattern.find? text start = some found ↔ pattern.Leftmost text start found := by
  rw [find?_eq_findSome?, findSome?_range'_eq_some_iff]
  constructor
  · rintro ⟨place, after, within, here, none⟩
    obtain rfl := Word.first_of_matchAt here
    exact ⟨after, by omega, here, none⟩
  · rintro ⟨after, within, here, none⟩
    exact ⟨_, after, by omega, here, none⟩

/-- Nothing is found if nothing matches at any place. -/
theorem find?_eq_none_iff :
    pattern.find? text start = none ↔
      ∀ place, start ≤ place → place ≤ text.size → pattern.matchAt text place = none := by
  rw [find?_eq_findSome?, findSome?_range'_eq_none_iff]
  refine forall_congr' fun place => forall_congr' fun after => imp_congr_left ?_
  omega

end Pattern

namespace Word

open Pattern

/-- The byte of a text at which a place begins. -/
def byteOf (text : String) (place : Nat) : String.Pos.Raw :=
  (String.ofList (text.toList.take place)).rawEndPos

section Bytes

variable (text : String) {place first last : Nat}

theorem byteOf_zero : byteOf text 0 = 0 := rfl

theorem byteOf_length : byteOf text text.length = text.rawEndPos := by
  rw [byteOf, List.take_of_length_le (Nat.le_of_eq String.length_toList), String.ofList_toList]

/-- The byte after the character that begins at a place. At the end of a text, where no character
begins, it is beyond the text. -/
theorem next_byteOf (place : Nat) :
    (byteOf text place).next text =
      ⟨(byteOf text place).byteIdx + ((text.toList.drop place).headD default).utf8Size⟩ := by
  have next := String.next_of_valid' (text.toList.take place) (text.toList.drop place)
  rw [List.take_append_drop, String.ofList_toList] at next
  rw [byteOf, String.rawEndPos_ofList, next]

/-- The byte after that of a place is the one of the next place. -/
theorem next_byteOf_of_lt (within : place < text.length) :
    (byteOf text place).next text = byteOf text (place + 1) := by
  have inside : place < text.toList.length := String.length_toList ▸ within
  rw [next_byteOf, byteOf, byteOf, String.rawEndPos_ofList, String.rawEndPos_ofList,
    List.take_succ_eq_append_getElem inside, String.utf8Len_append,
    List.drop_eq_getElem_cons inside]
  simp only [List.headD_cons, String.utf8Len_cons, String.utf8Len_nil, Nat.zero_add]

/-- The byte of a place is where a character begins, or the end. -/
theorem isValid_byteOf (place : Nat) : (byteOf text place).IsValid text := by
  refine String.Pos.Raw.isValid_iff_exists_append.mpr
    ⟨_, String.ofList (text.toList.drop place), ?_, rfl⟩
  rw [← String.ofList_append, List.take_append_drop, String.ofList_toList]

variable {text}

theorem byteOf_lt_byteOf (before : first < last) (within : last ≤ text.length) :
    byteOf text first < byteOf text last := by
  induction last, before using Nat.le_induction with
  | base =>
    rw [← next_byteOf_of_lt text within]
    exact String.Pos.Raw.lt_next text _
  | succ last _ ih =>
    have step := String.Pos.Raw.lt_next text (byteOf text last)
    rw [next_byteOf_of_lt text within] at step
    exact Nat.lt_trans (ih (Nat.le_of_succ_le within)) step

theorem byteOf_le_byteOf (before : first ≤ last) (within : last ≤ text.length) :
    byteOf text first ≤ byteOf text last := by
  rcases Nat.eq_or_lt_of_le before with rfl | less
  · exact Nat.le_refl _
  · exact Nat.le_of_lt (byteOf_lt_byteOf less within)

/-- Places of a text that begin at one byte are the same. -/
theorem byteOf_inj (one : first ≤ text.length) (other : last ≤ text.length)
    (same : byteOf text first = byteOf text last) : first = last := by
  rcases Nat.lt_trichotomy first last with less | same | less
  · exact absurd (same ▸ byteOf_lt_byteOf less other) (Nat.lt_irrefl _)
  · exact same
  · exact absurd (same ▸ byteOf_lt_byteOf less one) (Nat.lt_irrefl _)

end Bytes

/-- What a pattern finds from a byte of a text on where a place begins. -/
def FindsFrom (pattern : Pattern) (text : String) (start : String.Pos.Raw)
    (answer : Option Match) : Prop :=
  ∃ place ≤ text.length, start = byteOf text place ∧
    pattern.find? text.toList.toArray place = answer

namespace FindsFrom

variable {pattern : Pattern} {text : String} {start : String.Pos.Raw}
  {answer answer' : Option Match}

/-- A search from a byte is one from where a character begins, or from the end. -/
theorem isValid (finds : FindsFrom pattern text start answer) : start.IsValid text := by
  obtain ⟨place, -, rfl, -⟩ := finds
  exact isValid_byteOf text place

/-- A search does not start beyond the end of the text. -/
theorem not_beyond (finds : FindsFrom pattern text start answer) : ¬ text.rawEndPos < start :=
  Nat.not_lt_of_le finds.isValid.le_rawEndPos

/-- A search from a byte has one answer. -/
theorem unique (finds : FindsFrom pattern text start answer)
    (finds' : FindsFrom pattern text start answer') : answer = answer' := by
  obtain ⟨place, within, here, rfl⟩ := finds
  obtain ⟨place', within', here', rfl⟩ := finds'
  rw [byteOf_inj within within' (here.symm.trans here')]

/-- What follows the first character of a match is further on than where it was looked for. -/
theorem lt_next {found : Match} (finds : FindsFrom pattern text start (some found)) :
    start < (byteOf text found.span.first).next text := by
  obtain ⟨place, -, rfl, leftmost⟩ := finds
  obtain ⟨after, inside, -, -⟩ := find?_eq_some_iff.mp leftmost
  exact Nat.lt_of_le_of_lt (byteOf_le_byteOf after (size_chars text ▸ inside))
    (String.Pos.Raw.lt_next text _)

end FindsFrom

namespace CompiledWord

/-- A run of the search from a byte on, with the bytes from which it looks for a match and the span
that it comes to. It goes on after the first character of a match that is over the budget, and ends
beyond the text. -/
inductive Searches (w : CompiledWord) (text : String) :
    String.Pos.Raw → List String.Pos.Raw → Option Span → Prop
  | beyond {start : String.Pos.Raw} : text.rawEndPos < start → Searches w text start [] none
  | missed {start : String.Pos.Raw} : FindsFrom w.pattern text start none →
      Searches w text start [start] none
  | accepted {start : String.Pos.Raw} {found : Match} :
      FindsFrom w.pattern text start (some found) → found.groups.length ≤ w.budget →
      Searches w text start [start] (some found.span)
  | rejected {start : String.Pos.Raw} {found : Match} {starts : List String.Pos.Raw}
      {result : Option Span} :
      FindsFrom w.pattern text start (some found) → w.budget < found.groups.length →
      Searches w text ((byteOf text found.span.first).next text) starts result →
      Searches w text start (start :: starts) result

/-- The match preferred at a place keeps within the budget. -/
def FitsAt (w : CompiledWord) (text : Array Char) (place : Nat) (found : Match) : Prop :=
  w.pattern.matchAt text place = some found ∧ found.groups.length ≤ w.budget

variable {w : CompiledWord} {text : String} {start : String.Pos.Raw}
  {starts : List String.Pos.Raw} {result : Option Span}

/-- A place is accepted with the match that fits there. -/
theorem acceptedAt_eq_some_iff {text : Array Char} {place : Nat} {span : Span} :
    w.acceptedAt text place = some span ↔
      ∃ found, w.FitsAt text place found ∧ found.span = span := by
  simp only [acceptedAt, Option.bind_eq_some_iff, Option.ite_none_right_eq_some, Option.some.injEq,
    FitsAt, and_assoc]

/-- A place is not accepted if no match fits there. -/
theorem acceptedAt_eq_none_iff {text : Array Char} {place : Nat} :
    w.acceptedAt text place = none ↔ ∀ found, ¬ w.FitsAt text place found := by
  simp only [Option.eq_none_iff_forall_ne_some, ne_eq, acceptedAt_eq_some_iff, not_exists, not_and]
  exact ⟨fun none found fits => none _ found fits rfl, fun none _ found fits _ => none found fits⟩

/-- The search from a place comes to the same as a run from its byte. -/
theorem searches_findFrom (w : CompiledWord) (text : String) {place : Nat}
    (within : place ≤ text.length) :
    ∃ starts, w.Searches text (byteOf text place) starts
      (w.findFrom text.toList.toArray place) := by
  induction left : text.length - place using Nat.strong_induction_on generalizing place with
  | _ left ih =>
    cases here : w.pattern.find? text.toList.toArray place with
    | none =>
      rw [w.findFrom_of_none _ here]
      exact ⟨_, .missed ⟨place, within, rfl, here⟩⟩
    | some found =>
      have finds : FindsFrom w.pattern text (byteOf text place) (some found) :=
        ⟨place, within, rfl, here⟩
      rw [w.findFrom_of_some _ here]
      split
      · next few => exact ⟨_, .accepted finds few⟩
      · next many =>
        obtain ⟨after, inside, -, -⟩ := find?_eq_some_iff.mp here
        rw [size_chars] at inside
        rcases Nat.lt_or_eq_of_le inside with more | last
        · obtain ⟨starts, further⟩ := ih _ (by omega) more rfl
          rw [← next_byteOf_of_lt text more] at further
          exact ⟨_, .rejected finds (Nat.lt_of_not_le many) further⟩
        · -- A match at the very end of the text leaves nowhere to start again.
          have none : w.pattern.find? text.toList.toArray (found.span.first + 1) = none :=
            find?_eq_none_iff.mpr fun other after within => by
              rw [size_chars] at within
              omega
          have past : text.rawEndPos < (byteOf text found.span.first).next text := by
            rw [last, byteOf_length]
            exact String.Pos.Raw.lt_next text _
          rw [w.findFrom_of_none _ none]
          exact ⟨_, .rejected finds (Nat.lt_of_not_le many) (.beyond past)⟩

namespace Searches

/-- A run looks for matches where characters of the text begin or the text ends, and nowhere before
its start. -/
theorem of_mem_starts (searches : w.Searches text start starts result) :
    ∀ byte ∈ starts, start ≤ byte ∧ byte.IsValid text := by
  induction searches with
  | beyond => exact fun byte member => absurd member List.not_mem_nil
  | missed finds | accepted finds =>
    intro byte member
    obtain rfl := List.mem_singleton.mp member
    exact ⟨Nat.le_refl _, finds.isValid⟩
  | rejected finds many further ih =>
    intro byte member
    rcases List.mem_cons.mp member with rfl | later
    · exact ⟨Nat.le_refl _, finds.isValid⟩
    · obtain ⟨low, valid⟩ := ih byte later
      exact ⟨Nat.le_trans (Nat.le_of_lt finds.lt_next) low, valid⟩

/-- Every start of a run is further on than those before it. -/
theorem pairwise_starts (searches : w.Searches text start starts result) :
    starts.Pairwise (· < ·) := by
  induction searches with
  | beyond => exact .nil
  | missed | accepted => exact List.pairwise_singleton _ _
  | rejected finds many further ih =>
    refine .cons (fun byte later => ?_) ih
    exact Nat.lt_of_lt_of_le finds.lt_next (further.of_mem_starts byte later).1

/-- There is one run from a start. -/
theorem unique (searches : w.Searches text start starts result)
    {starts' : List String.Pos.Raw} {result' : Option Span}
    (other : w.Searches text start starts' result') : starts' = starts ∧ result' = result := by
  induction searches generalizing starts' result' with
  | beyond past =>
    cases other with
    | beyond => exact ⟨rfl, rfl⟩
    | missed finds' | accepted finds' | rejected finds' => exact absurd past finds'.not_beyond
  | missed finds =>
    cases other with
    | beyond past => exact absurd past finds.not_beyond
    | missed => exact ⟨rfl, rfl⟩
    | accepted finds' | rejected finds' => exact nomatch finds.unique finds'
  | accepted finds few =>
    cases other with
    | beyond past => exact absurd past finds.not_beyond
    | missed finds' => exact nomatch finds.unique finds'
    | accepted finds' =>
      obtain rfl := Option.some.inj (finds.unique finds')
      exact ⟨rfl, rfl⟩
    | rejected finds' many =>
      obtain rfl := Option.some.inj (finds.unique finds')
      exact absurd few (Nat.not_le_of_lt many)
  | rejected finds many _ ih =>
    cases other with
    | beyond past => exact absurd past finds.not_beyond
    | missed finds' => exact nomatch finds.unique finds'
    | accepted finds' few =>
      obtain rfl := Option.some.inj (finds.unique finds')
      exact absurd few (Nat.not_le_of_lt many)
    | rejected finds' _ further' =>
      obtain rfl := Option.some.inj (finds.unique finds')
      obtain ⟨rfl, rfl⟩ := ih further'
      exact ⟨rfl, rfl⟩

end Searches

/-- The search finds the preferred match of the first place where it keeps within the budget. -/
theorem findFrom_eq_some_iff {text : Array Char} {span : Span} :
    w.findFrom text 0 = some span ↔
      ∃ place ≤ text.size, ∃ found, w.FitsAt text place found ∧ found.span = span ∧
        ∀ earlier < place, ∀ other, ¬ w.FitsAt text earlier other := by
  rw [findFrom_eq, findSome?_range'_eq_some_iff]
  simp only [acceptedAt_eq_some_iff, acceptedAt_eq_none_iff]
  constructor
  · rintro ⟨place, -, within, ⟨found, fits, same⟩, none⟩
    exact ⟨place, by omega, found, fits, same, fun earlier => none earlier (Nat.zero_le _)⟩
  · rintro ⟨place, within, found, fits, same, none⟩
    exact ⟨place, Nat.zero_le _, by omega, ⟨found, fits, same⟩, fun earlier _ => none earlier⟩

/-- Nothing is found if no match fits at any place. -/
theorem findFrom_eq_none_iff {text : Array Char} :
    w.findFrom text 0 = none ↔ ∀ place ≤ text.size, ∀ found, ¬ w.FitsAt text place found := by
  rw [findFrom_eq, findSome?_range'_eq_none_iff]
  simp only [acceptedAt_eq_none_iff]
  exact ⟨fun none place within => none place (Nat.zero_le _) (by omega),
    fun none place _ within => none place (by omega)⟩

/-- **A search goes through the places of a text.** Its only run ends, looks for matches at bytes
where characters begin or the text ends, each further on than the last, and comes to the match that
is preferred at the first place where the preferred match keeps within the budget, or to nothing if
there is no such place. Here a pattern finds from a place on the match that is preferred at the
first place where it matches at all. -/
theorem find?_searches (w : CompiledWord) (text : String) :
    (∀ place found, w.pattern.find? text.toList.toArray place = some found ↔
        w.pattern.Leftmost text.toList.toArray place found) ∧
      ∃ starts result, w.Searches text 0 starts result ∧
        (∀ starts' result', w.Searches text 0 starts' result' →
          starts' = starts ∧ result' = result) ∧
        starts.Pairwise (· < ·) ∧
        (∀ start ∈ starts, start.IsValid text ∧ start ≤ text.rawEndPos) ∧
        w.find? text = result.map (fun span =>
          String.ofList (text.toList.toArray.extract span.first span.last).toList) ∧
        (∀ span, result = some span ↔
          ∃ place ≤ text.length, ∃ found, w.FitsAt text.toList.toArray place found ∧
            found.span = span ∧
            ∀ earlier < place, ∀ other, ¬ w.FitsAt text.toList.toArray earlier other) ∧
        (result = none ↔
          ∀ place ≤ text.length, ∀ found, ¬ w.FitsAt text.toList.toArray place found) := by
  obtain ⟨starts, searches⟩ := searches_findFrom w text (Nat.zero_le _)
  rw [byteOf_zero] at searches
  refine ⟨fun place found => find?_eq_some_iff, starts, _, searches,
    fun _ _ other => searches.unique other, searches.pairwise_starts, fun start member => ?_, rfl,
    fun span => ?_, ?_⟩
  · obtain ⟨-, valid⟩ := searches.of_mem_starts start member
    exact ⟨valid, valid.le_rawEndPos⟩
  · rw [findFrom_eq_some_iff, size_chars]
  · rw [findFrom_eq_none_iff, size_chars]

end CompiledWord

end Word

end Scrutiny
