import Mathlib.Data.List.Basic
import Mathlib.Data.List.Induction
import Scrutiny.Word.Spelling

/-! # Cutting a word into pieces

A word is cut into pieces from the left: a piece is a character with its marks, or a backslash with
the character that it escapes and the marks of that one. There is one way to cut a text like that
(`Spelling.cut_iff`), so pieces that are put together again in another text are found again if they
may stand one after the other. The anchor at the end of a word is told from the right, by counting
backslashes; it is there exactly if the last piece of the text is a dollar sign
(`Spelling.Cut.stops_iff`).
-/

namespace Scrutiny

namespace Text

/-- No white space stands at either end of a text. -/
structure Trimmed (cs : List Char) : Prop where
  start : ∀ c ∈ cs.head?, isWhiteSpace c = false
  stop : ∀ c ∈ cs.getLast?, isWhiteSpace c = false

/-- A text that begins with no white space is not cut at its start. -/
theorem trimStart_eq_self {cs : List Char} (start : ∀ c ∈ cs.head?, isWhiteSpace c = false) :
    trimStart cs = cs := by
  cases cs with
  | nil => rfl
  | cons c rest =>
    have dark : ¬ isWhiteSpace c = true := by simp [start c rfl]
    exact List.dropWhile_cons_of_neg dark

namespace Trimmed

variable {cs : List Char} (trimmed : Trimmed cs)

include trimmed

/-- A trimmed text is not cut at its end. -/
theorem trimStart_reverse : trimStart cs.reverse = cs.reverse :=
  trimStart_eq_self (by simpa only [List.head?_reverse] using trimmed.stop)

theorem trimChars_eq : trimChars cs = cs := by
  rw [trimChars, trimStart_eq_self trimmed.start, trimmed.trimStart_reverse, List.reverse_reverse]

/-- White space after a trimmed text is cut off. -/
theorem trimChars_concat (some : cs ≠ []) {c : Char} (white : isWhiteSpace c) :
    trimChars (cs ++ [c]) = cs := by
  have start : ∀ d ∈ (cs ++ [c]).head?, isWhiteSpace d = false := by
    rw [List.head?_append_of_ne_nil _ some]
    exact trimmed.start
  have cut : trimStart (c :: cs.reverse) = trimStart cs.reverse := List.dropWhile_cons_of_pos white
  rw [trimChars, trimStart_eq_self start, List.reverse_concat, cut, trimmed.trimStart_reverse,
    List.reverse_reverse]

end Trimmed

end Text

namespace Word

/-- What is written for a unit. -/
def WordUnit.written : WordUnit → List Char
  | plain text => text
  | escaped text => '\\' :: text

namespace Spelling

theorem isMark_backslash : Text.isMark '\\' = false := by decide +kernel

theorem isMark_dollar : Text.isMark '$' = false := by decide +kernel

/-- A piece is a character with its marks, or a backslash with the character that it escapes and the
marks of that one, or a backslash that has nothing to escape. -/
inductive Piece : List Char → Prop
  | plain {c : Char} {marks : List Char} :
      c ≠ '\\' → (∀ mark ∈ marks, Text.isMark mark) → Piece (c :: marks)
  | escaped {c : Char} {marks : List Char} :
      (∀ mark ∈ marks, Text.isMark mark) → Piece ('\\' :: c :: marks)
  | backslash : Piece ['\\']

/-- A piece may stand before another: it would escape what follows if it were a backslash alone, and
what follows would join it if it began with a mark. -/
def Precedes (first second : List Char) : Prop :=
  first ≠ ['\\'] ∧ ∀ c ∈ second.head?, Text.isMark c = false

/-- Pieces that can be told apart when they are put together. -/
structure Cut (pieces : List (List Char)) : Prop where
  formed : ∀ piece ∈ pieces, Piece piece
  apart : pieces.Pairwise Precedes

theorem Piece.ne_nil {piece : List Char} (formed : Piece piece) : piece ≠ [] := by
  cases formed <;> simp

theorem piece_singleton (c : Char) : Piece [c] := by
  by_cases escapes : c = '\\'
  · exact escapes ▸ .backslash
  · exact .plain escapes fun _ member => absurd member List.not_mem_nil

section Pieces

/-- Marks join the piece before them. -/
theorem piecesFrom_marks {current marks : List Char} (begun : current ≠ [])
    (all : ∀ mark ∈ marks, Text.isMark mark) (rest : List Char) :
    piecesFrom current (marks ++ rest) = piecesFrom (current ++ marks) rest := by
  induction marks generalizing current with
  | nil => rw [List.nil_append, List.append_nil]
  | cons mark marks ih =>
    obtain ⟨joins, others⟩ := List.forall_mem_cons.mp all
    rw [List.cons_append, piecesFrom, if_neg (by simpa using begun), joins,
      if_pos (Bool.true_or _), ih (by simp) others, List.append_assoc, List.singleton_append]

/-- A piece that needs no further character ends before the next one that is no mark. -/
theorem piecesFrom_of_ends {current rest : List Char} (begun : current ≠ [])
    (done : current ≠ ['\\']) (bare : ∀ c ∈ rest.head?, Text.isMark c = false) :
    piecesFrom current rest = current :: pieces rest := by
  cases rest with
  | nil => simp [piecesFrom, pieces, begun]
  | cons c rest => simp [piecesFrom, pieces, begun, done, bare c rfl]

/-- A piece is found at the start of a text that goes on with another piece. -/
theorem Piece.pieces_append {piece rest : List Char} (formed : Piece piece)
    (done : piece ≠ ['\\']) (bare : ∀ c ∈ rest.head?, Text.isMark c = false) :
    pieces (piece ++ rest) = piece :: pieces rest := by
  refine Eq.trans ?_ (piecesFrom_of_ends formed.ne_nil done bare)
  cases formed with
  | @plain c marks _ all => exact piecesFrom_marks (List.cons_ne_nil c []) all rest
  | @escaped c marks all =>
    have taken : pieces ('\\' :: c :: (marks ++ rest)) = piecesFrom ['\\', c] (marks ++ rest) := by
      simp [pieces, piecesFrom]
    exact taken.trans (piecesFrom_marks (List.cons_ne_nil '\\' [c]) all rest)
  | backslash => exact absurd rfl done

/-- A cut without its first piece is a cut. -/
theorem Cut.tail {piece : List Char} {cut : List (List Char)} (fits : Cut (piece :: cut)) :
    Cut cut :=
  ⟨(List.forall_mem_cons.mp fits.formed).2, (List.pairwise_cons.mp fits.apart).2⟩

/-- A backslash that has nothing to escape is the last piece. -/
theorem Cut.lone {cut : List (List Char)} (fits : Cut (['\\'] :: cut)) : cut = [] := by
  cases cut with
  | nil => rfl
  | cons next cut =>
    exact absurd rfl ((List.pairwise_cons.mp fits.apart).1 next List.mem_cons_self).1

/-- No mark follows a piece. -/
theorem Cut.bare {piece : List Char} {cut : List (List Char)} (fits : Cut (piece :: cut)) :
    ∀ c ∈ cut.flatten.head?, Text.isMark c = false := by
  cases cut with
  | nil => exact fun _ none => absurd none (Option.not_mem_none _)
  | cons next cut =>
    have some : next ≠ [] := (fits.tail.formed next List.mem_cons_self).ne_nil
    rw [List.flatten_cons, List.head?_append_of_ne_nil _ some]
    exact ((List.pairwise_cons.mp fits.apart).1 next List.mem_cons_self).2

/-- Pieces that can be told apart are found again. -/
theorem Cut.pieces_flatten {cut : List (List Char)} (fits : Cut cut) :
    pieces cut.flatten = cut := by
  induction cut with
  | nil => rfl
  | cons piece cut ih =>
    have formed := fits.formed piece List.mem_cons_self
    by_cases last : piece = ['\\']
    · subst last
      obtain rfl := fits.lone
      rfl
    · rw [List.flatten_cons, formed.pieces_append last fits.bare, ih fits.tail]

/-- Nothing is lost. -/
theorem flatten_piecesFrom (current rest : List Char) :
    (piecesFrom current rest).flatten = current ++ rest := by
  induction rest generalizing current with
  | nil => cases current <;> simp [piecesFrom]
  | cons c rest ih =>
    rw [piecesFrom]
    split
    · next begins => simp [ih, List.isEmpty_iff.mp begins]
    · split
      · rw [ih, List.append_assoc, List.singleton_append]
      · rw [List.flatten_cons, ih, List.singleton_append]

/-- No piece but the one begun can start with a mark. -/
theorem unmarked_of_mem_piecesFrom {current : List Char} (begun : current ≠ [])
    (bare : ∀ c ∈ current.head?, Text.isMark c = false) (rest : List Char) :
    ∀ piece ∈ piecesFrom current rest, ∀ c ∈ piece.head?, Text.isMark c = false := by
  induction rest generalizing current with
  | nil => simpa [piecesFrom, begun] using bare
  | cons c rest ih =>
    rw [piecesFrom, if_neg (by simpa using begun)]
    split
    · refine ih (by simp) ?_
      rwa [List.head?_append_of_ne_nil _ begun]
    · next stops =>
      obtain ⟨plain, _⟩ := Bool.or_eq_false_iff.mp (Bool.eq_false_iff.mpr stops)
      exact List.forall_mem_cons.mpr ⟨bare, ih (List.cons_ne_nil c []) (by simpa using plain)⟩

/-- A piece takes in a mark, or what its backslash escapes. -/
theorem Piece.append {current : List Char} (formed : Piece current) {c : Char}
    (joins : Text.isMark c || current == ['\\']) : Piece (current ++ [c]) := by
  have all {marks : List Char} (marked : ∀ mark ∈ marks, Text.isMark mark)
      (joined : Text.isMark c) : ∀ mark ∈ marks ++ [c], Text.isMark mark :=
    List.forall_mem_append.mpr ⟨marked, List.forall_mem_singleton.mpr joined⟩
  cases formed with
  | plain other marked => exact .plain other (all marked (by simpa [other] using joins))
  | escaped marked => exact .escaped (all marked (by simpa using joins))
  | backslash => exact .escaped fun _ member => absurd member List.not_mem_nil

/-- Cutting from the left gives pieces that can be told apart. -/
theorem cut_piecesFrom {current : List Char} (formed : Piece current) (rest : List Char) :
    Cut (piecesFrom current rest) := by
  induction rest generalizing current with
  | nil =>
    rw [piecesFrom, if_neg (by simpa using formed.ne_nil)]
    exact ⟨List.forall_mem_singleton.mpr formed, List.pairwise_singleton _ _⟩
  | cons c rest ih =>
    rw [piecesFrom, if_neg (by simpa using formed.ne_nil)]
    split
    · next joins => exact ih (formed.append joins)
    · next stops =>
      obtain ⟨plain, done⟩ := Bool.or_eq_false_iff.mp (Bool.eq_false_iff.mpr stops)
      have later := ih (piece_singleton c)
      have bare := unmarked_of_mem_piecesFrom (List.cons_ne_nil c []) (by simpa using plain) rest
      exact ⟨List.forall_mem_cons.mpr ⟨formed, later.formed⟩, List.pairwise_cons.mpr
        ⟨fun piece member => ⟨by simpa using done, bare piece member⟩, later.apart⟩⟩

/-- The pieces of a text make up the text. -/
theorem flatten_pieces (body : List Char) : (pieces body).flatten = body :=
  flatten_piecesFrom [] body

/-- The pieces of a text are a cut of it. -/
theorem cut_pieces (body : List Char) : Cut (pieces body) := by
  cases body with
  | nil => exact ⟨fun _ member => absurd member List.not_mem_nil, .nil⟩
  | cons c rest => exact cut_piecesFrom (piece_singleton c) rest

/-- There is one way to cut a text. -/
theorem cut_iff {body : List Char} {cut : List (List Char)} :
    cut.flatten = body ∧ Cut cut ↔ cut = pieces body := by
  constructor
  · rintro ⟨rfl, fits⟩
    exact fits.pieces_flatten.symm
  · rintro rfl
    exact ⟨flatten_pieces body, cut_pieces body⟩

example : pieces ['e', '\u0301', '\\', '$', '\\'] = [['e', '\u0301'], ['\\', '$'], ['\\']] := by
  decide +kernel

theorem Cut.sublist {some all : List (List Char)} (fits : Cut all) (part : some.Sublist all) :
    Cut some :=
  ⟨fun piece member => fits.formed piece (part.subset member), fits.apart.sublist part⟩

end Pieces

section Ends

/-- The number of backslashes at the end of a text. -/
def backslashes (cs : List Char) : Nat :=
  (cs.reverse.takeWhile (· == '\\')).length

/-- One more backslash at the end is one more to count. -/
theorem backslashes_concat_backslash (cs : List Char) :
    backslashes (cs ++ ['\\']) = backslashes cs + 1 := by
  simp [backslashes]

/-- Another character at the end leaves no backslashes to count. -/
theorem backslashes_concat_of_ne (cs : List Char) {c : Char} (other : c ≠ '\\') :
    backslashes (cs ++ [c]) = 0 := by
  simp [backslashes, other]

/-- The last character is escaped if the number of backslashes before it is odd. -/
theorem endsEscaped_concat (cs : List Char) (c : Char) :
    endsEscaped (cs ++ [c]) = (backslashes cs % 2 == 1) := by
  rw [endsEscaped, List.dropLast_concat]
  rfl

/-- The last character of a piece is a mark, or the piece has no marks. -/
theorem Piece.ends {piece : List Char} (formed : Piece piece) :
    (∃ start mark, piece = start ++ [mark] ∧ Text.isMark mark) ∨
      (∃ c, piece = [c]) ∨ ∃ c, piece = ['\\', c] := by
  cases formed with
  | @plain c marks _ all =>
    rcases marks.eq_nil_or_concat' with rfl | ⟨start, mark, rfl⟩
    · exact .inr (.inl ⟨c, rfl⟩)
    · exact .inl ⟨c :: start, mark, rfl, all mark (by simp)⟩
  | @escaped c marks all =>
    rcases marks.eq_nil_or_concat' with rfl | ⟨start, mark, rfl⟩
    · exact .inr (.inr ⟨c, rfl⟩)
    · exact .inl ⟨'\\' :: c :: start, mark, rfl, all mark (by simp)⟩
  | backslash => exact .inr (.inl ⟨'\\', rfl⟩)

/-- Backslashes come in pairs at the end of pieces that leave none of them alone. -/
theorem Cut.even_backslashes {cut : List (List Char)} (fits : Cut cut) (paired : ['\\'] ∉ cut) :
    backslashes cut.flatten % 2 = 0 := by
  induction cut using List.reverseRecOn with
  | nil => rfl
  | append_singleton before piece ih =>
    have formed := fits.formed piece (by simp)
    have even := ih (fits.sublist (List.sublist_append_left _ _)) fun member =>
      paired (List.mem_append_left _ member)
    rw [List.flatten_append, List.flatten_singleton]
    rcases formed.ends with ⟨start, mark, rfl, marked⟩ | ⟨c, rfl⟩ | ⟨c, rfl⟩
    · have other : mark ≠ '\\' := by
        rintro rfl
        exact absurd marked (by simp [isMark_backslash])
      rw [← List.append_assoc, backslashes_concat_of_ne _ other]
    · have other : c ≠ '\\' := by
        rintro rfl
        exact paired (by simp)
      rw [backslashes_concat_of_ne _ other]
    · rw [← List.singleton_append, ← List.append_assoc]
      by_cases escapes : c = '\\'
      · rw [escapes, backslashes_concat_backslash, backslashes_concat_backslash]
        omega
      · rw [backslashes_concat_of_ne _ escapes]

/-- A text ends in an anchor exactly if its last piece is a dollar sign. Counting the backslashes
before the sign tells whether it is escaped, as cutting from the left does. -/
theorem Cut.stops_iff {cut : List (List Char)} (fits : Cut cut) :
    (cut.flatten.getLast? = some '$' ∧ endsEscaped cut.flatten = false) ↔
      cut.getLast? = some ['$'] := by
  rcases cut.eq_nil_or_concat' with rfl | ⟨before, piece, rfl⟩
  · simp
  · have formed := fits.formed piece (by simp)
    have earlier := fits.sublist (List.sublist_append_left before [piece])
    have paired : ['\\'] ∉ before := fun member =>
      ((List.pairwise_append.mp fits.apart).2.2 _ member piece (by simp)).1 rfl
    have even := earlier.even_backslashes paired
    rw [List.flatten_append, List.flatten_singleton, List.getLast?_concat]
    rcases formed.ends with ⟨start, mark, rfl, marked⟩ | ⟨c, rfl⟩ | ⟨c, rfl⟩
    · have other : mark ≠ '$' := by
        rintro rfl
        exact absurd marked (by simp [isMark_dollar])
      have longer : start ++ [mark] ≠ ['$'] := fun same =>
        other (by simpa using congrArg List.getLast? same)
      rw [← List.append_assoc, List.getLast?_concat]
      exact iff_of_false (fun both => other (Option.some.inj both.1))
        fun same => longer (Option.some.inj same)
    · rw [List.getLast?_concat, endsEscaped_concat, even]
      simp
    · have odd : (backslashes before.flatten + 1) % 2 = 1 := by omega
      rw [← List.singleton_append, ← List.append_assoc, List.getLast?_concat,
        endsEscaped_concat, backslashes_concat_backslash, odd]
      simp

/-- The anchor at the end is there just if the last piece is a dollar sign. -/
theorem stops_iff (text : List Char) :
    (text.getLast? = some '$' ∧ endsEscaped text = false) ↔
      (pieces text).getLast? = some ['$'] := by
  have stops := (cut_pieces text).stops_iff
  rwa [flatten_pieces] at stops

end Ends

end Spelling

end Word

end Scrutiny
