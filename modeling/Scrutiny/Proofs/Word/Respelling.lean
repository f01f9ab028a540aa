import Scrutiny.Proofs.Word.Splitting

/-! # Writing a spelling out

The units of a word are what is left of its pieces without those of white space. Written out again,
with a backslash before what was escaped, they are found again, and so are the anchors: a word and
what is written for it have one spelling (`Spelling.ofWord_render`). A text with a backslash before
each of its characters is a word that stands for the text, but for a text that ends in white space:
this is cut off before the backslash is read (`Spelling.ofWord_escapeAll`).
-/

namespace Scrutiny.Word.Spelling

section Units

variable {piece : List Char} {u : WordUnit}

theorem isWhiteSpace_backslash : Text.isWhiteSpace '\\' = false := by decide

theorem isWhiteSpace_caret : Text.isWhiteSpace '^' = false := by decide

theorem isWhiteSpace_dollar : Text.isWhiteSpace '$' = false := by decide

/-- Something of a piece is not white space. -/
def shows (piece : List Char) : Bool :=
  !piece.all Text.isWhiteSpace

theorem chars_ne_nil (made : unitOfPiece piece = some u) (formed : piece ≠ []) : u.chars ≠ [] := by
  unfold unitOfPiece at made
  split at made
  · obtain rfl := Option.some.inj made
    exact List.cons_ne_nil _ _
  · split at made
    · exact absurd made (by simp)
    · obtain rfl := Option.some.inj made
      exact formed

/-- Pieces of white space can stand first or last only if the text begins or ends in white space.
Without that, leaving them out changes neither end. -/
theorem Cut.head?_filter {cut : List (List Char)} (fits : Cut cut)
    (dark : ∀ c ∈ cut.flatten.head?, Text.isWhiteSpace c = false) :
    (cut.filter shows).flatten.head? = cut.flatten.head? := by
  cases cut with
  | nil => rfl
  | cons piece others =>
    have some := (fits.formed piece List.mem_cons_self).ne_nil
    obtain ⟨c, rest, rfl⟩ := List.exists_cons_of_ne_nil some
    have visible : shows (c :: rest) := by simp [shows, dark c rfl]
    rw [List.filter_cons_of_pos visible]
    rfl

/-- Leaving white pieces out of a text that ends dark leaves its last piece and its last character.
-/
theorem Cut.getLast?_filter {cut : List (List Char)} (fits : Cut cut)
    (dark : ∀ c ∈ cut.flatten.getLast?, Text.isWhiteSpace c = false) :
    (cut.filter shows).getLast? = cut.getLast? ∧
      (cut.filter shows).flatten.getLast? = cut.flatten.getLast? := by
  rcases cut.eq_nil_or_concat' with rfl | ⟨before, piece, rfl⟩
  · exact ⟨rfl, rfl⟩
  · have some := (fits.formed piece (by simp)).ne_nil
    have last (others : List (List Char)) :
        (others ++ [piece]).flatten.getLast? = piece.getLast? := by
      rw [List.flatten_append, List.flatten_singleton, List.getLast?_append_of_ne_nil _ some]
    have visible : shows piece := by
      obtain ⟨start, c, rfl⟩ := (List.eq_nil_or_concat' piece).resolve_left some
      have shown := dark c (by rw [last, List.getLast?_concat]; rfl)
      simp [shows, shown]
    rw [List.filter_append, List.filter_singleton, visible]
    exact ⟨by simp, (last _).trans (last _).symm⟩

end Units

section Anchors

variable {start stop : Bool} {body : List Char}

/-- The sign of an anchor at the start. -/
def caret (start : Bool) : List Char :=
  if start then ['^'] else []

/-- The sign of an anchor at the end. -/
def dollar (stop : Bool) : List Char :=
  if stop then ['$'] else []

@[simp]
theorem caret_true : caret true = ['^'] := rfl

@[simp]
theorem caret_false : caret false = [] := rfl

@[simp]
theorem dollar_true : dollar true = ['$'] := rfl

@[simp]
theorem dollar_false : dollar false = [] := rfl

/-- A spelling written out. -/
def render (spelling : Spelling) : List Char :=
  (if spelling.anchoredStart then ['^'] else []) ++
    (spelling.units.flatMap fun u => match u with
      | .plain text => text
      | .escaped text => '\\' :: text) ++
    (if spelling.anchoredEnd then ['$'] else [])

/-- A body between anchors does not begin or end in what would be taken for one, and nothing in it
escapes the sign of the anchor behind it. -/
structure Anchored (start stop : Bool) (body : List Char) : Prop where
  first : start = false → body.head? ≠ some '^'
  last : stop = false → (pieces body).getLast? ≠ some ['$']
  paired : stop = true → ['\\'] ∉ pieces body

/-- After the anchor at the start, the one at the end is told by the last character. -/
theorem anchors_caret {text : List Char} (first : start = false → text.head? ≠ some '^') :
    anchors (caret start ++ text) =
      if text.getLast? = some '$' ∧ endsEscaped text = false then (start, true, text.dropLast)
      else (start, false, text) := by
  have ends : (if text.getLast? == some '$' && !endsEscaped text then (start, true, text.dropLast)
      else (start, false, text)) =
        if text.getLast? = some '$' ∧ endsEscaped text = false then (start, true, text.dropLast)
        else (start, false, text) := by
    simp
  refine Eq.trans ?_ ends
  cases start with
  | true => rfl
  | false =>
    unfold anchors
    split
    next start body same =>
    split at same
    · next rest begins =>
      have head : text.head? = some '^' := congrArg List.head? begins
      exact absurd head (first rfl)
    · obtain ⟨rfl, rfl⟩ := Prod.mk.inj same
      rfl

/-- A sign at the end of a text is an anchor if what stands before it leaves no backslash alone. -/
theorem anchored_end_iff {text : List Char} :
    (text.getLast? = some '$' ∧ endsEscaped text = false) ↔
      ∃ body, text = body ++ ['$'] ∧ ['\\'] ∉ pieces body := by
  rw [stops_iff]
  constructor
  · intro last
    obtain ⟨before, whole⟩ := List.getLast?_eq_some_iff.mp last
    have fits := whole ▸ cut_pieces text
    have joined : text = before.flatten ++ ['$'] := by
      rw [← flatten_pieces text, whole, List.flatten_append, List.flatten_singleton]
    have same := (fits.sublist (List.sublist_append_left _ _)).pieces_flatten
    refine ⟨before.flatten, joined, fun member => ?_⟩
    rw [same] at member
    exact ((List.pairwise_append.mp fits.apart).2.2 _ member ['$'] (by simp)).1 rfl
  · rintro ⟨body, rfl, paired⟩
    have formed : ∀ piece ∈ pieces body ++ [['$']], Piece piece :=
      List.forall_mem_append.mpr
        ⟨(cut_pieces body).formed, List.forall_mem_singleton.mpr (piece_singleton '$')⟩
    have apart : (pieces body ++ [['$']]).Pairwise Precedes :=
      List.pairwise_append.mpr ⟨(cut_pieces body).apart, List.pairwise_singleton _ _,
        fun piece member next last => List.mem_singleton.mp last ▸
          ⟨fun alone => paired (alone ▸ member), by simp [isMark_dollar]⟩⟩
    have joined : (pieces body ++ [['$']]).flatten = body ++ ['$'] := by
      rw [List.flatten_append, List.flatten_singleton, flatten_pieces]
    rw [← cut_iff.mp ⟨joined, formed, apart⟩, List.getLast?_concat]

/-- A word is its anchors and its body in one way. -/
theorem anchors_eq_iff {word : List Char} : anchors word = (start, stop, body) ↔
    word = caret start ++ body ++ dollar stop ∧ Anchored start stop body := by
  constructor
  · intro told
    obtain ⟨front, text, rfl, first⟩ : ∃ front text, word = caret front ++ text ∧
        (front = false → text.head? ≠ some '^') := by
      by_cases begins : word.head? = some '^'
      · obtain ⟨text, rfl⟩ := List.head?_eq_some_iff.mp begins
        exact ⟨true, text, rfl, fun never => absurd never (by simp)⟩
      · exact ⟨false, word, rfl, fun _ => begins⟩
    rw [anchors_caret first] at told
    split at told
    · next ends =>
      obtain ⟨inside, rfl, paired⟩ := anchored_end_iff.mp ends
      obtain ⟨rfl, rfl, rfl⟩ : front = start ∧ true = stop ∧ inside = body := by
        simpa using told
      refine ⟨by simp, fun never begins => first never ?_,
        fun never => absurd never (by simp), fun _ => paired⟩
      rw [List.head?_append, begins, Option.some_or]
    · next goes =>
      obtain ⟨rfl, rfl, rfl⟩ : front = start ∧ false = stop ∧ text = body := by
        simpa using told
      exact ⟨by simp, first, fun _ last => goes ((stops_iff text).mpr last),
        fun never => absurd never (by simp)⟩
  · rintro ⟨rfl, anchored⟩
    have first : start = false → (body ++ dollar stop).head? ≠ some '^' := by
      intro never begins
      cases body with
      | nil => cases stop <;> simp at begins
      | cons c rest => exact anchored.first never begins
    rw [List.append_assoc, anchors_caret first]
    cases stop with
    | true =>
      have ends := anchored_end_iff.mpr ⟨body, rfl, anchored.paired rfl⟩
      rw [dollar_true, if_pos ends, List.dropLast_concat]
    | false =>
      have goes : ¬ (body.getLast? = some '$' ∧ endsEscaped body = false) :=
        fun ends => anchored.last rfl ((stops_iff body).mp ends)
      rw [dollar_false, List.append_nil, if_neg goes]

/-- The signs of the anchors shelter the body from being trimmed. -/
theorem trimmed_iff : Text.Trimmed (caret start ++ body ++ dollar stop) ↔
    (start = false → ∀ c ∈ body.head?, Text.isWhiteSpace c = false) ∧
      (stop = false → ∀ c ∈ body.getLast?, Text.isWhiteSpace c = false) := by
  constructor
  · rintro ⟨front, back⟩
    refine ⟨fun bare c first => front c ?_, fun bare c last => back c ?_⟩
    · simp [bare, Option.mem_def.mp first]
    · simp [bare, Option.mem_def.mp last]
  · rintro ⟨front, back⟩
    constructor
    · intro c first
      cases start with
      | true =>
        obtain rfl : '^' = c := by simpa using first
        exact isWhiteSpace_caret
      | false =>
        cases body with
        | nil =>
          cases stop with
          | true =>
            obtain rfl : '$' = c := by simpa using first
            exact isWhiteSpace_dollar
          | false => exact absurd first (by simp)
        | cons d rest => exact front rfl c (by simpa using first)
    · intro c last
      cases stop with
      | true =>
        obtain rfl : '$' = c := by simpa using last
        exact isWhiteSpace_dollar
      | false =>
        rcases body.eq_nil_or_concat' with rfl | ⟨rest, d, rfl⟩
        · cases start with
          | true =>
            obtain rfl : '^' = c := by simpa using last
            exact isWhiteSpace_caret
          | false => exact absurd last (by simp)
        · rw [dollar_false, List.append_nil, ← List.append_assoc, List.getLast?_concat] at last
          exact back rfl c (by simpa using last)

/-- A body without the white space between its pieces has the same anchors, and nothing of it is
trimmed. -/
theorem Anchored.kept (anchored : Anchored start stop body)
    (trimmed : Text.Trimmed (caret start ++ body ++ dollar stop)) :
    let text := ((pieces body).filter shows).flatten
    Anchored start stop text ∧ Text.Trimmed (caret start ++ text ++ dollar stop) := by
  intro text
  obtain ⟨front, back⟩ := trimmed_iff.mp trimmed
  have fits := cut_pieces body
  have found : pieces text = (pieces body).filter shows :=
    (fits.sublist List.filter_sublist).pieces_flatten
  have begins (bare : start = false) : text.head? = body.head? := by
    have same := fits.head?_filter (by rw [flatten_pieces]; exact front bare)
    rwa [flatten_pieces] at same
  have ends (bare : stop = false) : (pieces text).getLast? = (pieces body).getLast? ∧
      text.getLast? = body.getLast? := by
    have same := fits.getLast?_filter (by rw [flatten_pieces]; exact back bare)
    rwa [flatten_pieces, ← found, flatten_pieces] at same
  constructor
  · refine ⟨fun bare => ?_, fun bare => ?_, fun closed member => anchored.paired closed ?_⟩
    · rw [begins bare]
      exact anchored.first bare
    · rw [(ends bare).1]
      exact anchored.last bare
    · rw [found] at member
      exact List.mem_of_mem_filter member
  · refine trimmed_iff.mpr ⟨fun bare => ?_, fun bare => ?_⟩
    · rw [begins bare]
      exact front bare
    · rw [(ends bare).2]
      exact back bare

end Anchors

/-- A word is spelled by its anchors and the pieces of its body. -/
theorem ofWord_eq {word : String} {start stop : Bool} {body : List Char}
    (told : anchors (Text.trimChars word.toList) = (start, stop, body)) :
    ofWord word = ⟨start, stop, (pieces body).filterMap unitOfPiece⟩ := by
  rw [ofWord, told]

/-- The body of a word, without the white space around the word and without its anchors. -/
def body (word : String) : List Char :=
  (anchors (Text.trimChars word.toList)).2.2

/-- A text with a backslash before each of its characters. -/
def escapeAll (text : List Char) : List Char :=
  text.flatMap fun c => ['\\', c]

/-- The pieces of an escaped text. -/
def escapedPieces (text : List Char) : List (List Char) :=
  text.map fun c => ['\\', c]

/-- Escaped characters are pieces, and so is a lone backslash after them. -/
theorem cut_escapedPieces (text : List Char) : Cut (escapedPieces text ++ [['\\']]) := by
  have bare : ∀ c ∈ ['\\'].head?, Text.isMark c = false := by simp [isMark_backslash]
  have formed : ∀ piece ∈ escapedPieces text, Piece piece ∧ Precedes piece ['\\'] := by
    intro piece member
    obtain ⟨c, _, rfl⟩ := List.mem_map.mp member
    exact ⟨.escaped fun _ none => absurd none List.not_mem_nil, by simp, bare⟩
  constructor
  · exact List.forall_mem_append.mpr
      ⟨fun piece member => (formed piece member).1, List.forall_mem_singleton.mpr .backslash⟩
  · refine List.pairwise_append.mpr ⟨?_, List.pairwise_singleton _ _, fun piece member _ last =>
      List.mem_singleton.mp last ▸ (formed piece member).2⟩
    exact List.pairwise_map.mpr
      (List.pairwise_of_forall fun _ _ => ⟨by simp, by simp [isMark_backslash]⟩)

/-- The escaped pieces of a text make up the escaped text. -/
theorem flatten_escapedPieces (text : List Char) :
    (escapedPieces text).flatten = escapeAll text :=
  List.flatMap_def.symm

/-- Escaping goes character by character, from the end as well. -/
theorem escapeAll_concat (text : List Char) (c : Char) :
    escapeAll (text ++ [c]) = escapeAll text ++ ['\\', c] := by
  simp [escapeAll]

theorem head?_escapeAll {text : List Char} {c : Char} (first : c ∈ (escapeAll text).head?) :
    c = '\\' := by
  cases text with
  | nil => exact absurd first (by simp [escapeAll])
  | cons d rest => exact (Option.some.inj first).symm

/-- Each escaped piece is a unit of its own, that of its character. -/
theorem filterMap_escapedPieces (text : List Char) :
    (escapedPieces text).filterMap unitOfPiece = text.map fun c => .escaped [c] := by
  rw [escapedPieces, List.filterMap_map, ← List.filterMap_eq_map]
  rfl

/-- A word whose trimmed text is cut into pieces that are no anchors has these pieces. -/
theorem ofWord_of_cut {cut : List (List Char)} (fits : Cut cut) {word : String}
    (told : Text.trimChars word.toList = cut.flatten) (first : cut.flatten.head? ≠ some '^')
    (last : cut.getLast? ≠ some ['$']) :
    ofWord word = ⟨false, false, cut.filterMap unitOfPiece⟩ := by
  have free : Anchored false false cut.flatten :=
    ⟨fun _ => first, fun _ => by rwa [fits.pieces_flatten], fun never => absurd never (by simp)⟩
  have none : anchors (Text.trimChars word.toList) = (false, false, cut.flatten) := by
    rw [told]
    exact anchors_eq_iff.mpr ⟨by simp, free⟩
  rw [ofWord_eq none, fits.pieces_flatten]

/-- An escaped text that ends in no white space is a word that stands for the text. -/
theorem ofWord_escapeAll_of_dark {text : List Char}
    (dark : ∀ c ∈ text.getLast?, Text.isWhiteSpace c = false) :
    ofWord (String.ofList (escapeAll text)) =
      ⟨false, false, text.map fun c => .escaped [c]⟩ := by
  have fits := (cut_escapedPieces text).sublist (List.sublist_append_left _ _)
  have trimmed : Text.Trimmed (escapeAll text) := by
    refine ⟨fun c first => head?_escapeAll first ▸ isWhiteSpace_backslash, ?_⟩
    rcases text.eq_nil_or_concat' with rfl | ⟨before, c, rfl⟩
    · simp [escapeAll]
    · simpa [escapeAll_concat] using dark
  have told : Text.trimChars (String.ofList (escapeAll text)).toList =
      (escapedPieces text).flatten := by
    rw [String.toList_ofList, trimmed.trimChars_eq, flatten_escapedPieces]
  rw [ofWord_of_cut fits told, filterMap_escapedPieces]
  · rw [flatten_escapedPieces]
    exact fun first => absurd (head?_escapeAll first) (by decide)
  · intro last
    obtain ⟨c, _, same⟩ := List.mem_map.mp (List.mem_of_getLast? last)
    exact absurd (congrArg List.length same) (by simp)

/-- White space at the end of an escaped text is cut off, and the backslash before it is left. -/
theorem ofWord_escapeAll_of_white (text : List Char) {c : Char} (white : Text.isWhiteSpace c) :
    ofWord (String.ofList (escapeAll (text ++ [c]))) =
      ⟨false, false, (text.map fun c => .escaped [c]) ++ [.plain ['\\']]⟩ := by
  have fits := cut_escapedPieces text
  have joined : (escapedPieces text ++ [['\\']]).flatten = escapeAll text ++ ['\\'] := by
    rw [List.flatten_append, flatten_escapedPieces, List.flatten_singleton]
  have front : ∀ d ∈ (escapeAll text ++ ['\\']).head?, d = '\\' := by
    cases text with
    | nil => simp [escapeAll]
    | cons e rest => exact fun d first => (Option.some.inj first).symm
  have trimmed : Text.Trimmed (escapeAll text ++ ['\\']) :=
    ⟨fun d first => front d first ▸ isWhiteSpace_backslash, by simp [isWhiteSpace_backslash]⟩
  have told : Text.trimChars (String.ofList (escapeAll (text ++ [c]))).toList =
      (escapedPieces text ++ [['\\']]).flatten := by
    have whole : escapeAll (text ++ [c]) = (escapeAll text ++ ['\\']) ++ [c] := by
      rw [escapeAll_concat, List.append_assoc, List.singleton_append]
    rw [String.toList_ofList, whole, trimmed.trimChars_concat (by simp) white, joined]
  have last : unitOfPiece ['\\'] = some (.plain ['\\']) := by
    simp [unitOfPiece, isWhiteSpace_backslash]
  rw [ofWord_of_cut fits told, List.filterMap_append, filterMap_escapedPieces,
    List.filterMap_cons_some last, List.filterMap_nil]
  · rw [joined]
    exact fun first => absurd (front '^' first) (by decide)
  · simp

/-- **Escaping a text.** With a backslash before each of its characters, a text is a word without
anchors whose units are its characters, escaped one by one, exactly if the text does not end in
white space. If it does, its last character is trimmed off, and the last unit is the backslash. -/
theorem ofWord_escapeAll (text : String) :
    let word := String.ofList (escapeAll text.toList)
    let literal := text.toList.map fun c => WordUnit.escaped [c]
    (ofWord word = ⟨false, false, literal⟩ ↔
        ∀ c ∈ text.toList.getLast?, Text.isWhiteSpace c = false) ∧
      ∀ c ∈ text.toList.getLast?, Text.isWhiteSpace c →
        ofWord word = ⟨false, false, literal.dropLast ++ [.plain ['\\']]⟩ := by
  intro word literal
  have white : ∀ c ∈ text.toList.getLast?, Text.isWhiteSpace c →
      ofWord word = ⟨false, false, literal.dropLast ++ [.plain ['\\']]⟩ := by
    intro c last white
    obtain ⟨before, whole⟩ := List.getLast?_eq_some_iff.mp last
    have spelled := ofWord_escapeAll_of_white before white
    simp only [word, literal, whole, spelled, List.map_append, List.map_singleton,
      List.dropLast_concat]
  refine ⟨⟨fun same c last => ?_, ofWord_escapeAll_of_dark⟩, white⟩
  by_contra visible
  have other := white c last (by simpa using visible)
  have ends : literal.getLast? = some (.escaped [c]) := by
    rw [List.getLast?_map, Option.mem_def.mp last, Option.map_some]
  have units : literal = literal.dropLast ++ [.plain ['\\']] :=
    congrArg Spelling.units (same.symm.trans other)
  rw [units, List.getLast?_concat] at ends
  exact absurd ends (by simp)

/-- The word of an escaped space is a backslash. -/
theorem ofWord_escapeAll_space :
    let text := " "
    let word := String.ofList (escapeAll text.toList)
    text ≠ "" ∧ ofWord word = ⟨false, false, [.plain ['\\']]⟩ ∧
      ofWord word ≠ ⟨false, false, text.toList.map fun c => .escaped [c]⟩ := by
  decide +kernel

end Scrutiny.Word.Spelling
