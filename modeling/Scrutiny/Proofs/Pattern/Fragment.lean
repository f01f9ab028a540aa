import Scrutiny.Proofs.Pattern.Groupless

/-! # Fragments of pattern texts

A pattern text that is put together from fragments is read fragment by fragment: a class in its own
parentheses becomes the pattern that it is on its own, escaped characters become one item each, and
a bracket of escaped characters becomes the set of these. A class can break the text it is put into
if it ends in a comment (`OpenEnded`), and it can stop the reading if it names a group, since no
name may be given twice. So the fragments are passed one by one, if nothing can stop the reading or
if it is known to come to an end (`Goes`).
-/

namespace Scrutiny.Pattern

/-- The state in which reading begins. -/
def start (ignoreCase : Bool) : ReaderState :=
  { flags := { ignoreCase := ignoreCase } }

/-- A text that takes a parenthesis after it for a part of its own: it ends in a comment. -/
def OpenEnded (text : String) : Prop :=
  (read? false (text ++ ")")).isSome = true

instance (text : String) : Decidable (OpenEnded text) :=
  inferInstanceAs (Decidable (_ = true))

section Classes

variable {ignoreCase : Bool} {text : String} {pattern : Pattern}

/-- A text is read as a pattern if its last sign leaves a piece that is not nested too deeply. -/
theorem read?_eq_some :
    read? ignoreCase text = some pattern ↔
      ∃ piece, readLoop (text.toList.length + 1) (start ignoreCase) text.toList = some piece ∧
        piece.depth ≤ maxNesting ∧ piece.pattern = pattern := by
  unfold read?
  simp only [Option.bind_eq_some_iff, Option.ite_none_right_eq_some, Option.some.injEq]
  rfl

/-- Reading starts in states that are alike, with case ignored or not. -/
theorem start_embeds {casing : Casing} {one other : Bool} (allowed : casing.Allows one other) :
    (start one).Embeds casing [] (start other) :=
  ⟨⟨other, rfl, allowed⟩, .nil, [], rfl, .nil⟩

/-- A text is a pattern of the same structure with case ignored or not. -/
theorem read?_withCase {casing : Casing} {other : Bool} (allowed : casing.Allows ignoreCase other)
    (read : read? ignoreCase text = some pattern) :
    ∃ pattern', read? other text = some pattern' ∧ pattern.Alike casing pattern' := by
  obtain ⟨piece, whole, small, rfl⟩ := read?_eq_some.mp read
  obtain ⟨piece', whole', alike⟩ := readLoop_alike (start_embeds allowed) rfl whole
  exact ⟨piece'.pattern, read?_eq_some.mpr ⟨piece', whole', alike.depth ▸ small, rfl⟩,
    alike.pattern⟩

/-- The parenthesis that follows a text is not closed where nothing is open. -/
theorem readLoop_unopened {bound : Nat} {state : ReaderState} (none : state.opened = [])
    (rest : List Char) : readLoop bound state (')' :: rest) = .none := by
  cases bound with
  | zero => rfl
  | succ bound =>
    obtain ⟨flags, level, opened, nextGroup, names⟩ := state
    obtain rfl : opened = [] := none
    rw [readLoop_step (skip_follower flags (follower_paren rest))]
    rfl

/-- A text is read on its own, after groups that have been given some names. -/
def Alone (ignoreCase : Bool) (names : List (List Char)) (text : String) (piece : Piece) : Prop :=
  readLoop (text.toList.length + 1) { start ignoreCase with names := names } text.toList =
    some piece

/-- A text that does not end in a comment is read in the same way inside another. -/
theorem resumes_of_not_openEnded {piece : Piece} (alone : Alone ignoreCase [] text piece)
    (small : piece.depth ≤ maxNesting) (closed : ¬ OpenEnded text) :
    Resumes .kept (text.toList.length + 1) (start ignoreCase) text.toList piece := by
  refine (readLoop_embeds alone).resolve_right fun swallows => closed ?_
  have refl : (start ignoreCase).Embeds .kept [] (start ignoreCase) :=
    ⟨.refl _, .nil, [], rfl, .nil⟩
  obtain ⟨piece', whole', alike⟩ :=
    (swallows [')'] [] _ (follower_paren []) (by decide) refl).2 rfl rfl
  obtain ⟨piece'', whole'', alike'⟩ :=
    readLoop_alike (start_embeds (.free ignoreCase false)) rfl whole'
  have text' : (text ++ ")").toList = text.toList ++ [')'] := String.toList_append
  refine Option.isSome_iff_exists.mpr ⟨piece''.pattern, read?_eq_some.mpr ⟨piece'', ?_, ?_, rfl⟩⟩
  · rw [text']
    refine readLoop_mono whole'' ?_
    rw [List.length_append]
    omega
  · rw [← alike'.depth, ← alike.depth]
    exact small

/-- Whether a text takes more with it does not depend on the names that have been given. -/
theorem resumes_of_alone {piece : Piece} {names : List (List Char)}
    (resumes : Resumes .kept (text.toList.length + 1) (start ignoreCase) text.toList piece)
    (alone : Alone ignoreCase names text piece) :
    Resumes .kept (text.toList.length + 1) { start ignoreCase with names := names } text.toList
      piece := by
  refine (readLoop_embeds alone).resolve_right fun swallows => ?_
  let state : ReaderState := { start ignoreCase with names := names }
  have beside : state.Embeds .kept [] state := ⟨.refl _, .nil, [], rfl, .nil⟩
  obtain ⟨piece', whole, _⟩ :=
    (swallows [')'] [] state (follower_paren []) (by decide) beside).2 rfl rfl
  have inside : (start ignoreCase).Embeds .kept [] state := ⟨.refl _, .nil, [], rfl, .nil⟩
  rcases resumes [] [] state inside with
    ⟨items, last, last', _, ends, opened, _, _, same⟩ | ⟨_, stuck⟩
  · have longer := readLoop_mono whole (Nat.le_add_left _ items)
    rw [same, readLoop_unopened (ends.opened_nil opened)] at longer
    exact nomatch longer
  · exact nomatch (stuck _).symm.trans whole

/-- A text that is a pattern in its own parentheses does not end in a comment. -/
theorem not_openEnded_of_group (read : read? false text = some pattern)
    (whole : (read? false ("^(?:" ++ text ++ ")$")).isSome = true) : ¬ OpenEnded text := by
  intro openEnded
  obtain ⟨piece, alone, _, _⟩ := read?_eq_some.mp read
  rcases readLoop_embeds alone with resumes | swallows
  · obtain ⟨_, longer⟩ := Option.isSome_iff_exists.mp openEnded
    obtain ⟨piece', longer, _, _⟩ := read?_eq_some.mp longer
    have text' : (text ++ ")").toList = text.toList ++ [')'] := String.toList_append
    rw [text'] at longer
    have refl : (start false).Embeds .kept [] (start false) := ⟨.refl _, .nil, [], rfl, .nil⟩
    obtain ⟨items, last, last', _, embeds, opened, _, _, same⟩ :=
      (resumes [] [] _ refl).resolve_right fun stuck => stuck.1 rfl
    have longer := readLoop_mono longer (Nat.le_add_left _ items)
    rw [same, readLoop_unopened (embeds.opened_nil opened)] at longer
    exact nomatch longer
  · obtain ⟨_, longer⟩ := Option.isSome_iff_exists.mp whole
    obtain ⟨piece', longer, _, _⟩ := read?_eq_some.mp longer
    have text' : ("^(?:" ++ text ++ ")$").toList =
        '^' :: '(' :: '?' :: ':' :: (text.toList ++ [')', '$']) := by
      simp only [String.toList_append]
      rfl
    rw [text', List.length_cons, List.length_cons] at longer
    obtain ⟨_, _, next, asked, applied, longer⟩ :=
      readLoop_step_some (c := '^') rfl longer
    cases asked
    cases applied
    obtain ⟨_, _, next, asked, applied, longer⟩ :=
      readLoop_step_some (c := '(') rfl longer
    cases asked
    cases applied
    have inside : (start false).Embeds .kept
        [⟨Level.push {} ⟨.assertion .textStart, 0, false⟩, none, {}⟩]
        ({ start false with
          level := Level.push {} ⟨.assertion .textStart, 0, false⟩ }.open none {}) :=
      ⟨.refl _, .nil, [], rfl, .nil⟩
    have outermost :=
      (swallows [')', '$'] _ _ (follower_paren ['$']) (by decide) inside).1 _ _ longer
    exact nomatch outermost

end Classes

/-- Items that were read make a sequence in the order of the text. -/
theorem Level.sequence_of_items {level : Level} {parts : List Pattern}
    (items : level.items.map Piece.pattern = parts.reverse) :
    level.sequence.pattern = seqAll parts := by
  rw [Level.sequence_pattern, List.map_reverse, items, List.reverse_reverse]

/-- Pieces that are nested so far are nested one deeper together. -/
theorem nested_le {parts : List Piece} {limit : Nat}
    (small : ∀ piece ∈ parts, piece.depth ≤ limit) :
    nested parts ≤ limit + 1 := by
  have bound (depths : List Nat) (first : Nat) (low : first ≤ limit)
      (all : ∀ depth ∈ depths, depth ≤ limit) : depths.foldl max first ≤ limit := by
    induction depths generalizing first with
    | nil => exact low
    | cons depth depths ih =>
      obtain ⟨here, later⟩ := List.forall_mem_cons.mp all
      exact ih _ (max_le low here) later
  exact Nat.succ_le_succ (bound _ 0 (Nat.zero_le _) (List.forall_mem_map.mpr small))

/-- A sequence is nested one deeper than its items at most. -/
theorem Level.sequence_depth_le {level : Level} {limit : Nat}
    (small : ∀ piece ∈ level.items, piece.depth ≤ limit) : level.sequence.depth ≤ limit + 1 := by
  obtain ⟨alternatives, items⟩ := level
  match items with
  | [] => exact Nat.zero_le _
  | [only] => exact Nat.le_succ_of_le (small only List.mem_cons_self)
  | first :: second :: items => exact nested_le small

/-- A state further on in a text: some parts have been added to the current alternative, none of
them nested more deeply than a limit. -/
structure ReaderState.Extends (limit : Nat) (parts : List Pattern) (state next : ReaderState) :
    Prop where
  flags : next.flags = state.flags
  opened : next.opened = state.opened
  alternatives : next.level.alternatives = state.level.alternatives
  items : ∃ pieces : List Piece, next.level.items = pieces ++ state.level.items ∧
    pieces.map Piece.pattern = parts.reverse ∧ ∀ piece ∈ pieces, piece.depth ≤ limit
  nextGroup : state.nextGroup ≤ next.nextGroup

namespace ReaderState.Extends

variable {limit : Nat}

theorem refl (state : ReaderState) : state.Extends limit [] state :=
  ⟨rfl, rfl, rfl, ⟨[], rfl, rfl, fun _ member => absurd member List.not_mem_nil⟩, Nat.le_refl _⟩

theorem trans {parts more : List Pattern} {state middle next : ReaderState}
    (first : state.Extends limit parts middle) (second : middle.Extends limit more next) :
    state.Extends limit (parts ++ more) next where
  flags := second.flags.trans first.flags
  opened := second.opened.trans first.opened
  alternatives := second.alternatives.trans first.alternatives
  items := by
    obtain ⟨pieces, added, patterns, small⟩ := first.items
    obtain ⟨others, further, patterns', small'⟩ := second.items
    refine ⟨others ++ pieces, ?_, ?_, fun piece member => ?_⟩
    · rw [further, added, List.append_assoc]
    · rw [List.map_append, patterns, patterns', List.reverse_append]
    · exact (List.mem_append.mp member).elim (small' piece) (small piece)
  nextGroup := first.nextGroup.trans second.nextGroup

/-- One more part, after which other groups and names may be open to those that follow. -/
theorem push (state : ReaderState) {piece : Piece} (small : piece.depth ≤ limit) {nextGroup : Nat}
    (groups : state.nextGroup ≤ nextGroup) (names : List (List Char)) :
    state.Extends limit [piece.pattern]
      ⟨state.flags, state.level.push piece, state.opened, nextGroup, names⟩ :=
  ⟨rfl, rfl, rfl, ⟨[piece], rfl, rfl, List.forall_mem_singleton.mpr small⟩, groups⟩

/-- A larger limit on the depth allows what a smaller one does. -/
theorem mono {parts : List Pattern} {state next : ReaderState}
    (further : state.Extends limit parts next) {more : Nat} (larger : limit ≤ more) :
    state.Extends more parts next where
  flags := further.flags
  opened := further.opened
  alternatives := further.alternatives
  items := by
    obtain ⟨pieces, added, patterns, small⟩ := further.items
    exact ⟨pieces, added, patterns, fun piece member => (small piece member).trans larger⟩
  nextGroup := further.nextGroup

/-- What has been read of an alternative from its beginning. -/
theorem sequence {parts : List Pattern} {state next : ReaderState}
    (further : state.Extends limit parts next) (fresh : state.level.items = []) :
    next.level.sequence.pattern = seqAll parts ∧ next.level.sequence.depth ≤ limit + 1 := by
  obtain ⟨pieces, added, patterns, small⟩ := further.items
  rw [fresh, List.append_nil] at added
  exact ⟨Level.sequence_of_items (added ▸ patterns), Level.sequence_depth_le (added ▸ small)⟩

/-- What has been read at the end of a level without other alternatives. -/
theorem finish {parts : List Pattern} {state next : ReaderState}
    (further : state.Extends limit parts next) (fresh : state.level = {}) :
    next.level.finish.pattern = seqAll parts ∧ next.level.finish.depth ≤ limit + 1 := by
  have alternatives : next.level.alternatives = [] := by
    rw [further.alternatives, fresh]
  unfold Level.finish
  rw [alternatives]
  exact further.sequence (by rw [fresh])

end ReaderState.Extends

section Fragments

variable {state next : ReaderState} {rest : List Char}

/-- An item at the beginning of a text, when blanks count. -/
theorem passes_item (tight : state.flags.spaced = false) {c : Char} {after : List Char}
    {action : Action} (asked : decode state.flags c after = some (action, rest))
    (applied : state.apply action = some next) (shorter : rest.length ≤ after.length) :
    Passes state (c :: after) next rest := by
  have left : state.flags.skip (c :: after) = c :: after := by
    rw [Flags.skip, tight, if_neg Bool.false_ne_true]
  exact .item left asked applied (Nat.lt_succ_of_le shorter)

/-- One character, in any case if case is ignored. -/
def foldedChar (ignoreCase : Bool) (c : Char) : Pattern :=
  .one ((start ignoreCase).flags.fold (.single c))

/-- A backslash before a character with a meaning stands for the character. -/
theorem escape_metaChar (flags : Flags) {c : Char} (member : c ∈ metaChars) (rest : List Char) :
    escape flags (c :: rest) = some (.literal c false, rest) := by
  have listed : metaChars = ['\\', '.', '+', '*', '?', '(', ')', '|', '[', ']', '\x7b', '\x7d', '^',
    '$', '#', '&', '-', '~'] := by decide
  rw [listed] at member
  simp only [List.mem_cons, List.not_mem_nil, or_false] at member
  rcases member with rfl | rfl | rfl | rfl | rfl | rfl | rfl | rfl | rfl | rfl | rfl | rfl | rfl |
    rfl | rfl | rfl | rfl | rfl <;> rfl

/-- A character without a meaning stands for itself, closed under case. -/
theorem decode_plain {flags : Flags} (unicode : flags.unicode = true) {c : Char}
    (plain : c ∉ metaChars) (rest : List Char) :
    decode flags c rest = some (.item (.one (flags.fold (.single c))) 0, rest) := by
  have literal : (Primitive.literal c false).pattern? flags =
      some (.one (flags.fold (.single c))) := by
    simp only [Primitive.pattern?, unicode, Bool.true_or, ↓reduceIte]
  unfold decode
  split
  all_goals first
    | exact absurd (by decide) plain
    | exact congrArg (Option.map fun pattern => (Action.item pattern 0, rest)) literal

/-- An escaped character begins with a backslash or with itself. -/
theorem escapeChars_cons (c : Char) (cs : List Char) :
    c ∈ metaChars ∧ escapeChars (c :: cs) = '\\' :: c :: escapeChars cs ∨
      c ∉ metaChars ∧ escapeChars (c :: cs) = c :: escapeChars cs := by
  by_cases member : c ∈ metaChars
  · refine .inl ⟨member, ?_⟩
    simp only [escapeChars, List.flatMap_cons, List.contains_iff_mem.mpr member, ↓reduceIte,
      List.cons_append, List.nil_append]
  · refine .inr ⟨member, ?_⟩
    have absent : ¬ metaChars.contains c = true := fun found =>
      member (List.contains_iff_mem.mp found)
    simp only [escapeChars, List.flatMap_cons, if_neg absent, List.cons_append, List.nil_append]

theorem length_le_escapeChars (cs : List Char) : cs.length ≤ (escapeChars cs).length := by
  induction cs with
  | nil => exact Nat.le_refl _
  | cons c cs ih =>
    rcases escapeChars_cons c cs with ⟨_, escaped⟩ | ⟨_, escaped⟩ <;>
      simp only [escaped, List.length_cons] <;> omega

/-- Escaped characters are read as one item each. -/
theorem passes_escaped {ignoreCase : Bool} (flags : state.flags = (start ignoreCase).flags)
    (cs : List Char) :
    ∃ next, state.Extends 0 (cs.map (foldedChar ignoreCase)) next ∧
      Passes state (escapeChars cs ++ rest) next rest := by
  induction cs generalizing state with
  | nil => exact ⟨state, .refl state, .refl state rest⟩
  | cons c cs ih =>
    have tight : state.flags.spaced = false := flags ▸ rfl
    let piece : Piece := ⟨foldedChar ignoreCase c, 0, false⟩
    let next : ReaderState := { state with level := state.level.push piece }
    have applied : state.apply (.item (foldedChar ignoreCase c) 0) = some next := rfl
    have here : Passes state (escapeChars (c :: cs) ++ rest) next (escapeChars cs ++ rest) := by
      rcases escapeChars_cons c cs with ⟨member, escaped⟩ | ⟨plain, escaped⟩
      · rw [escaped, List.cons_append, List.cons_append]
        refine passes_item tight ?_ applied (Nat.le_succ _)
        simp only [decode, escape_metaChar _ member, Option.bind_some, flags]
        rfl
      · rw [escaped, List.cons_append]
        refine passes_item tight ?_ applied (Nat.le_refl _)
        rw [flags]
        exact decode_plain rfl plain _
    have flat : piece.depth ≤ 0 := Nat.le_refl 0
    have pushed : state.Extends 0 [piece.pattern] next := .push state flat (Nat.le_refl _) _
    have flags' : next.flags = (start ignoreCase).flags := flags
    obtain ⟨last, further, passes⟩ := ih flags'
    exact ⟨last, pushed.trans further, here.trans passes⟩

end Fragments

section Brackets

variable {flags : Flags} {rest : List Char}

/-- A character is in the union if it is in the first set or in one of the others. -/
theorem has_foldl_union (first : CharSet) (others : List CharSet) (c : Char) :
    (others.foldl .union first).has c = (first.has c || others.any fun set => set.has c) := by
  induction others generalizing first with
  | nil => rw [List.foldl_nil, List.any_nil, Bool.or_false]
  | cons second others ih =>
    rw [List.foldl_cons, ih, List.any_cons, ← Bool.or_assoc]
    rfl

/-- A character is in the union of sets if it is in one of them. -/
theorem has_unionAll (sets : List CharSet) (c : Char) :
    (CharSet.unionAll sets).has c = sets.any fun set => set.has c := by
  cases sets with
  | nil => rfl
  | cons first others => exact has_foldl_union first others c

/-- A character is in the set of some items if it is in the set of one of them. -/
theorem has_unionItems (items : List NestedSet) (c : Char) :
    (unionItems items).set.has c = items.any fun item => item.set.has c := by
  match items with
  | [] => rfl
  | [only] =>
    rw [List.any_cons, List.any_nil, Bool.or_false]
    rfl
  | first :: second :: others =>
    simp only [unionItems]
    rw [has_unionAll, List.any_map, List.any_reverse]
    rfl

/-- The signs that bracketed classes give a meaning to are escaped. -/
theorem notMem_signs {c : Char} (plain : c ∉ metaChars) :
    c ∉ ['\\', '[', ']', '-', '^', '&', '~'] := by
  have signs : ['\\', '[', ']', '-', '^', '&', '~'].all metaChars.contains = true := by decide
  exact fun sign => plain (List.contains_iff_mem.mp (List.all_eq_true.mp signs c sign))

/-- The first character of escaped characters and a closing bracket after them. -/
theorem escapeChars_head (cs : List Char) (rest : List Char) :
    ∃ d others, escapeChars cs ++ ']' :: rest = d :: others ∧ d ≠ '-' ∧ d ≠ '^' ∧
      (cs ≠ [] → d ≠ ']') := by
  cases cs with
  | nil => exact ⟨']', rest, rfl, by decide, by decide, fun some => absurd rfl some⟩
  | cons c cs =>
    rcases escapeChars_cons c cs with ⟨_, escaped⟩ | ⟨plain, escaped⟩
    · exact ⟨_, _, by rw [escaped]; rfl, by decide, by decide, fun _ => by decide⟩
    · have other := notMem_signs plain
      simp only [List.mem_cons, List.not_mem_nil, or_false, not_or] at other
      obtain ⟨_, _, closes, minus, caret, _, _⟩ := other
      exact ⟨c, _, by rw [escaped]; rfl, minus, caret, fun _ => closes⟩

theorem skip_tight (tight : flags.spaced = false) (cs : List Char) : flags.skip cs = cs := by
  rw [Flags.skip, tight, if_neg Bool.false_ne_true]

/-- An escaped character that no hyphen follows stands for itself in a bracket. -/
theorem bracketRange_single (unicode : flags.unicode = true) (tight : flags.spaced = false)
    {cs others : List Char} {c d : Char} (item : bracketItem flags cs =
      some (.literal c false, d :: others)) (noRange : d ≠ '-') :
    bracketRange flags cs = some (.single c, d :: others) := by
  have single : singleItem flags (.literal c false) (d :: others) =
      some (.single c, d :: others) := by
    simp only [singleItem, literalAllowed, unicode, Bool.true_or, ↓reduceIte]
  rw [bracketRange_eq, item, Option.bind_some, skip_tight tight, single]
  split
  · next same => exact nomatch same
  · next same => exact absurd (List.cons.inj same).1 noRange
  · rfl

/-- One escaped character of a bracketed class. -/
theorem bracketStep_escaped (unicode : flags.unicode = true) (tight : flags.spaced = false)
    (state : BracketState) (c : Char) (cs : List Char) :
    bracketStep flags state (escapeChars (c :: cs) ++ ']' :: rest) =
      some (.more (state.push ⟨.single c, 0⟩) (escapeChars cs ++ ']' :: rest)) := by
  obtain ⟨d, others, next, noRange, _, _⟩ := escapeChars_head cs rest
  rcases escapeChars_cons c cs with ⟨member, escaped⟩ | ⟨plain, escaped⟩
  · have item : bracketItem flags ('\\' :: c :: d :: others) =
        some (.literal c false, d :: others) := escape_metaChar flags member _
    rw [escaped, List.cons_append, List.cons_append, next,
      bracketStep_range flags state (by decide) (by decide) ?_,
      bracketRange_single unicode tight item noRange]
    · rfl
    · rintro _ - ⟨rfl, sign⟩
      exact absurd sign (by decide)
  · have other := notMem_signs plain
    simp only [List.mem_cons, List.not_mem_nil, or_false, not_or] at other
    obtain ⟨backslash, opens, closes, minus, _, both, tilde⟩ := other
    have item : bracketItem flags (c :: d :: others) = some (.literal c false, d :: others) := by
      simp only [bracketItem]
    rw [escaped, List.cons_append, next, bracketStep_range flags state opens closes ?_,
      bracketRange_single unicode tight item noRange]
    · rfl
    · rintro _ - ⟨rfl, sign⟩
      simp only [List.mem_cons, List.not_mem_nil, or_false] at sign
      rcases sign with same | same | same
      · exact both same
      · exact minus same
      · exact tilde same

/-- Items that are not nested make a set that is nested once. -/
theorem unionItems_depth_le {items : List NestedSet} (flat : ∀ item ∈ items, item.depth = 0) :
    (unionItems items).depth ≤ 1 := by
  match items with
  | [] => exact Nat.zero_le _
  | [only] => exact (flat only List.mem_cons_self).le.trans (Nat.zero_le _)
  | first :: second :: items =>
    have none : (first :: second :: items).map NestedSet.depth =
        (first :: second :: items).map fun _ => 0 := List.map_congr_left flat
    have most (depths : List NestedSet) : (depths.map fun _ => 0).foldl max 0 = 0 := by
      induction depths with
      | nil => rfl
      | cons _ _ ih => exact ih
    rw [unionItems, none, most]
    · exact nofun
    · exact nofun

/-- A bracket of escaped characters is the set of these in any case. -/
theorem bracketLoop_escaped (unicode : flags.unicode = true) (tight : flags.spaced = false)
    {bound : Nat} {items : List NestedSet} (flat : ∀ item ∈ items, item.depth = 0)
    (cs : List Char) (enough : cs.length < bound) :
    ∃ found, bracketLoop flags bound ⟨[⟨false, [], none⟩], items⟩ (escapeChars cs ++ ']' :: rest) =
        some (found, rest) ∧ found.depth ≤ 2 ∧ ∃ inner : CharSet, found.set = flags.fold inner ∧
          ∀ c, inner.has c = (cs.contains c || items.any fun item => item.set.has c) := by
  induction cs generalizing bound items with
  | nil =>
    obtain ⟨bound, rfl⟩ := Nat.exists_eq_add_of_lt enough
    have closes : closeBracket flags ⟨false, [], none⟩ items =
        some ⟨flags.fold (unionItems items).set, (unionItems items).depth + 1⟩ := by
      simp only [closeBracket, combine, Flags.foldAndNegate, staysBasic, unicode, Bool.true_or,
        Bool.false_eq_true, ↓reduceIte]
    have ends : bracketStep flags ⟨[⟨false, [], none⟩], items⟩ (']' :: rest) =
        some (.done ⟨flags.fold (unionItems items).set, (unionItems items).depth + 1⟩ rest) := by
      simp only [bracketStep, closes, Option.map_some, List.isEmpty_nil, ↓reduceIte]
    refine ⟨⟨flags.fold (unionItems items).set, (unionItems items).depth + 1⟩, ?_,
      Nat.succ_le_succ (unionItems_depth_le flat), _, rfl, fun c => has_unionItems items c⟩
    rw [bracketLoop, skip_tight tight]
    simp only [escapeChars, List.flatMap_nil, List.nil_append, ends]
  | cons c cs ih =>
    obtain ⟨bound, rfl⟩ := Nat.exists_eq_add_of_lt enough
    have flat' : ∀ item ∈ (⟨.single c, 0⟩ :: items : List NestedSet), item.depth = 0 :=
      List.forall_mem_cons.mpr ⟨rfl, flat⟩
    have enough' : cs.length < (c :: cs).length + bound := by
      rw [List.length_cons]
      omega
    obtain ⟨found, read, small, inner, folded, members⟩ := ih flat' enough'
    refine ⟨found, ?_, small, inner, folded, fun d => ?_⟩
    · rw [bracketLoop, skip_tight tight, bracketStep_escaped unicode tight]
      exact read
    · rw [members d, List.any_cons, CharSet.has_single, List.contains_cons]
      cases d == c <;> simp

/-- A bracketed list of escaped characters is one character of the list in any case. -/
theorem bracket_escaped (unicode : flags.unicode = true) (tight : flags.spaced = false)
    {cs : List Char} (nonempty : cs ≠ []) :
    ∃ found, bracket flags ('[' :: (escapeChars cs ++ ']' :: rest)) = some (found, rest) ∧
      found.depth ≤ 2 ∧ ∃ inner : CharSet, found.set = flags.fold inner ∧
        ∀ c, inner.has c = cs.contains c := by
  obtain ⟨d, others, next, noHyphen, noCaret, notClosing⟩ := escapeChars_head cs rest
  have opens : openBracket flags (escapeChars cs ++ ']' :: rest) =
      (false, [], escapeChars cs ++ ']' :: rest) := by
    have plain : (flags.skip (d :: others)).head? ≠ some '^' := by
      rw [skip_tight tight]
      exact fun same => noCaret (Option.some.inj same)
    have none : leadingHyphens flags (d :: others).length (d :: others) = (0, d :: others) := by
      rw [List.length_cons, leadingHyphens, skip_tight tight]
      split
      · next same => exact absurd (List.cons.inj same).1 noHyphen
      · rfl
    rw [next, openBracket_plain plain, skip_tight tight, openItems, none]
    simp only [skip_tight tight, List.replicate_zero]
    split
    · next same => exact absurd (List.cons.inj same).1 (notClosing nonempty)
    · rfl
  have enough : cs.length < ('[' :: (escapeChars cs ++ ']' :: rest)).length := by
    have long := length_le_escapeChars cs
    rw [List.length_cons, List.length_append]
    omega
  have flat : ∀ item ∈ ([] : List NestedSet), item.depth = 0 :=
    fun _ member => absurd member List.not_mem_nil
  obtain ⟨found, read, small, inner, folded, members⟩ :=
    bracketLoop_escaped unicode tight flat cs enough
  refine ⟨found, ?_, small, inner, folded, fun c => ?_⟩
  · rw [bracket, bracketLoop, skip_tight tight]
    simp only [bracketStep, List.isEmpty_nil, ↓reduceIte, opens]
    exact read
  · rw [members c, List.any_nil, Bool.or_false]

end Brackets

section Groups

variable {state : ReaderState} {rest : List Char}

/-- A bracketed list of escaped characters is read as one item. -/
theorem passes_bracketed {ignoreCase : Bool} (flags : state.flags = (start ignoreCase).flags)
    {cs : List Char} (nonempty : cs ≠ []) :
    ∃ next inner, state.Extends 2 [.one ((start ignoreCase).flags.fold inner)] next ∧
      (∀ c, inner.has c = cs.contains c) ∧
      Passes state ('[' :: (escapeChars cs ++ ']' :: rest)) next rest := by
  have unicode : state.flags.unicode = true := flags ▸ rfl
  have tight : state.flags.spaced = false := flags ▸ rfl
  obtain ⟨found, bracketed, small, inner, folded, members⟩ :
      ∃ found, bracket state.flags ('[' :: (escapeChars cs ++ ']' :: rest)) = some (found, rest) ∧
        found.depth ≤ 2 ∧ _ := bracket_escaped unicode tight nonempty
  let piece : Piece := ⟨.one found.set, found.depth, false⟩
  have asked : decode state.flags '[' (escapeChars cs ++ ']' :: rest) =
      some (.item piece.pattern piece.depth, rest) := by
    rw [decode, bracketed]
    rfl
  have shorter : rest.length ≤ (escapeChars cs ++ ']' :: rest).length := by
    rw [List.length_append, List.length_cons]
    omega
  have pushed : state.Extends 2 [piece.pattern] _ := .push state small (Nat.le_refl _) state.names
  have same : piece.pattern = .one ((start ignoreCase).flags.fold inner) :=
    congrArg Pattern.one (flags ▸ folded)
  exact ⟨_, inner, same ▸ pushed, members, passes_item tight asked rfl shorter⟩

/-- What opens a group without a number. -/
theorem passes_open (tight : state.flags.spaced = false) :
    Passes state ('(' :: '?' :: ':' :: rest) (state.open none state.flags) rest := by
  have asked : decode state.flags '(' ('?' :: ':' :: rest) =
      some (.enter none false state.flags, rest) := by
    rw [decode, decodeGroup, skip_tight tight]
    rfl
  exact passes_item tight asked rfl (Nat.le_add_right _ 2)

/-- What opens a group with a number. -/
theorem passes_openNumbered (tight : state.flags.spaced = false) (plain : rest.head? ≠ some '?') :
    Passes state ('(' :: rest) (state.open (some state.nextGroup) state.flags) rest := by
  have asked : decode state.flags '(' rest = some (.enter none true state.flags, rest) := by
    rw [decode, decodeGroup, skip_tight tight]
    split
    · next same => exact absurd rfl plain
    · rfl
  exact passes_item tight asked rfl (Nat.le_refl _)

/-- What closes a group. -/
theorem passes_close {flags : Flags} {level : Level} {innermost : OpenGroup}
    {opened : List OpenGroup} {nextGroup : Nat} {names : List (List Char)} :
    Passes ⟨flags, level, innermost :: opened, nextGroup, names⟩ (')' :: rest)
      ⟨innermost.flags, innermost.outer.push ⟨match innermost.index with
        | some index => .group index level.finish.pattern
        | none => level.finish.pattern, level.finish.depth + 1, false⟩, opened, nextGroup, names⟩
      rest := by
  have asked : decode flags ')' rest = some (.leave, rest) := rfl
  exact .item (skip_follower flags (follower_paren rest)) asked rfl (Nat.lt_succ_self _)

/-- Reading goes on from a state: nothing can stop it, or it is known to come to an end. -/
def Goes (free : Prop) (state : ReaderState) (cs : List Char) : Prop :=
  free ∨ ∃ bound piece, readLoop bound state cs = some piece

/-- What is known to come to an end does so from where a part of it has been passed. -/
theorem Goes.pass {free : Prop} {next : ReaderState} {cs : List Char} (goes : Goes free state cs)
    (passes : Passes state cs next rest) : Goes free next rest :=
  goes.imp_right fun ⟨bound, piece, read⟩ => ⟨bound, piece, passes.read read⟩

/-- A text that is a pattern without groups and does not end in a comment. -/
structure Standalone (ignoreCase : Bool) (text : String) (piece : Piece) : Prop where
  alone : Alone ignoreCase [] text piece
  small : piece.depth ≤ maxNesting
  groupless : piece.pattern.Groupless
  closed : ¬ OpenEnded text

namespace Standalone

variable {ignoreCase : Bool} {text : String} {piece : Piece}

/-- The text inside another comes to the parenthesis that follows it. -/
theorem arrives (standalone : Standalone ignoreCase text piece) {around : List OpenGroup}
    (embeds : (start ignoreCase).Embeds .kept around state)
    (goes : Goes (Alone ignoreCase state.names text piece) state (text.toList ++ ')' :: rest)) :
    Arrives .kept (text.toList.length + 1) text.toList piece rest around state := by
  have resumes := resumes_of_not_openEnded standalone.alone standalone.small standalone.closed
  rcases goes with again | ⟨bound, whole, read⟩
  · have beside : { start ignoreCase with names := state.names }.Embeds .kept around state :=
      ⟨embeds.flags, embeds.level, embeds.opened⟩
    exact (resumes_of_alone resumes again rest around state beside).resolve_right
      fun stuck => stuck.1 rfl
  · exact (resumes rest around state embeds).resolve_right
      fun stuck => nomatch (stuck.2 bound).symm.trans read

/-- A class up to the parenthesis that closes it is what it is on its own. -/
theorem passes_class (standalone : Standalone ignoreCase text piece)
    (flags : state.flags = (start ignoreCase).flags) (fresh : state.level = {})
    {innermost : OpenGroup} {opened : List OpenGroup} (inside : state.opened = innermost :: opened)
    (goes : Goes (Alone ignoreCase state.names text piece) state (text.toList ++ ')' :: rest)) :
    ∃ body nextGroup names, piece.pattern.Alike .kept body ∧ state.nextGroup ≤ nextGroup ∧
      Passes state (text.toList ++ ')' :: rest) ⟨innermost.flags,
        innermost.outer.push ⟨match innermost.index with
          | some index => .group index body
          | none => body, piece.depth + 1, false⟩, opened, nextGroup, names⟩ rest := by
  have embeds : (start ignoreCase).Embeds .kept (innermost :: opened) state :=
    ⟨flags ▸ .refl _, fresh ▸ .nil, [], inside, .nil⟩
  obtain ⟨items, last, last', few, ends, none, finished, groups, same⟩ :=
    standalone.arrives embeds goes
  have around : last'.opened = innermost :: opened := ends.opened_nil none
  have body := ends.level.finish
  obtain ⟨flags', level, opened', nextGroup, names⟩ := last'
  obtain rfl : opened' = innermost :: opened := around
  have depth : piece.depth = level.finish.depth := finished ▸ body.depth
  have length : items + (')' :: rest).length ≤ (text.toList ++ ')' :: rest).length := by
    rw [List.length_append]
    omega
  have whole : Passes state (text.toList ++ ')' :: rest)
      ⟨flags', level, innermost :: opened, nextGroup, names⟩ (')' :: rest) := ⟨items, length, same⟩
  refine ⟨level.finish.pattern, nextGroup, names, finished ▸ body.pattern, groups, ?_⟩
  rw [depth]
  exact whole.trans passes_close

/-- A text in parentheses of its own is what it is alone. -/
theorem passes_group (standalone : Standalone ignoreCase text piece)
    (flags : state.flags = (start ignoreCase).flags)
    (goes : Goes (Alone ignoreCase state.names text piece) state
      ('(' :: '?' :: ':' :: (text.toList ++ ')' :: rest))) :
    ∃ body nextGroup names, piece.pattern.Alike .kept body ∧ state.nextGroup ≤ nextGroup ∧
      Passes state ('(' :: '?' :: ':' :: (text.toList ++ ')' :: rest)) ⟨state.flags,
        state.level.push ⟨body, piece.depth + 1, false⟩, state.opened, nextGroup, names⟩ rest := by
  have opens : Passes state ('(' :: '?' :: ':' :: (text.toList ++ ')' :: rest)) _ _ :=
    passes_open (flags ▸ rfl)
  have flags' : (state.open none state.flags).flags = (start ignoreCase).flags := flags
  obtain ⟨body, nextGroup, names, alike, groups, passes⟩ :=
    standalone.passes_class flags' rfl rfl (goes.pass opens)
  exact ⟨body, nextGroup, names, alike, groups, opens.trans passes⟩

/-- A pattern does not begin with a question mark. -/
theorem head?_ne_question (standalone : Standalone ignoreCase text piece) :
    text.toList.head? ≠ some '?' := by
  intro question
  obtain ⟨others, text'⟩ := List.head?_eq_some_iff.mp question
  have whole := standalone.alone
  rw [Alone, text'] at whole
  obtain ⟨action, after, next, asked, applied, -⟩ :=
    readLoop_step_some (skip_tight rfl _) whole
  cases asked
  exact nomatch applied

/-- A text in parentheses that are counted is a group of what it is alone. -/
theorem passes_numbered (standalone : Standalone ignoreCase text piece)
    (flags : state.flags = (start ignoreCase).flags)
    (goes : Goes (Alone ignoreCase state.names text piece) state
      ('(' :: (text.toList ++ ')' :: rest))) :
    ∃ body nextGroup names, piece.pattern.Alike .kept body ∧ state.nextGroup < nextGroup ∧
      Passes state ('(' :: (text.toList ++ ')' :: rest)) ⟨state.flags,
        state.level.push ⟨.group state.nextGroup body, piece.depth + 1, false⟩, state.opened,
        nextGroup, names⟩ rest := by
  have plain : (text.toList ++ ')' :: rest).head? ≠ some '?' := by
    have first := standalone.head?_ne_question
    cases chars : text.toList with
    | nil => exact nofun
    | cons c cs => rwa [chars] at first
  have opens := passes_openNumbered (flags ▸ rfl : state.flags.spaced = false) plain
  have flags' : (state.open (some state.nextGroup) state.flags).flags =
      (start ignoreCase).flags := flags
  obtain ⟨body, nextGroup, names, alike, groups, passes⟩ :=
    standalone.passes_class flags' rfl rfl (goes.pass opens)
  exact ⟨body, nextGroup, names, alike, groups, opens.trans passes⟩

/-- A text in parentheses of its own, any number of times. -/
theorem passes_repeated (standalone : Standalone ignoreCase text piece)
    (flags : state.flags = (start ignoreCase).flags) (plain : rest.head? ≠ some '?')
    (goes : Goes (Alone ignoreCase state.names text piece) state
      ('(' :: '?' :: ':' :: (text.toList ++ ')' :: '*' :: rest))) :
    ∃ body nextGroup names, piece.pattern.Alike .kept body ∧ state.nextGroup ≤ nextGroup ∧
      Passes state ('(' :: '?' :: ':' :: (text.toList ++ ')' :: '*' :: rest)) ⟨state.flags,
        state.level.push ⟨.rep 0 none true body, piece.depth + 2, false⟩, state.opened,
        nextGroup, names⟩ rest := by
  obtain ⟨body, nextGroup, names, alike, groups, passes⟩ := standalone.passes_group flags goes
  have greedy : lazyMark rest = (false, rest) := by
    unfold lazyMark
    split
    · exact absurd rfl plain
    · rfl
  let middle : ReaderState := ⟨state.flags, state.level.push ⟨body, piece.depth + 1, false⟩,
    state.opened, nextGroup, names⟩
  have tight : middle.flags.spaced = false := flags ▸ rfl
  have swap : state.flags.swapGreed = false := flags ▸ rfl
  have asked : decode middle.flags '*' rest = some (.repetition 0 none false, rest) := by
    simp only [decode, greedy]
  have applied : middle.apply (.repetition 0 none false) = some ⟨state.flags,
      state.level.push ⟨.rep 0 none true body, piece.depth + 2, false⟩, state.opened, nextGroup,
      names⟩ := by
    simp only [middle, ReaderState.apply, repeatLast, Level.push, swap]
    rfl
  have repeats : Passes middle ('*' :: rest) _ rest :=
    passes_item tight asked applied (Nat.le_refl _)
  exact ⟨body, nextGroup, names, alike, groups, passes.trans repeats⟩

/-- Parts, or else a text in parentheses that are counted. -/
theorem passes_or_numbered (standalone : Standalone ignoreCase text piece)
    (flags : state.flags = (start ignoreCase).flags) {few limit : Nat} (some : few + 3 ≤ limit)
    (room : piece.depth + 3 ≤ limit) {cs : List Char} (known : List Pattern → Prop)
    (first : ∀ (state : ReaderState) (rest : List Char), state.flags = (start ignoreCase).flags →
      ∃ next parts, known parts ∧ state.Extends few parts next ∧
        Passes state (cs ++ rest) next rest)
    (goes : Goes (∀ names, Alone ignoreCase names text piece) state
      ('(' :: '?' :: ':' :: (cs ++ '|' :: '(' :: (text.toList ++ ')' :: ')' :: rest)))) :
    ∃ next parts index body, known parts ∧ piece.pattern.Alike .kept body ∧
      state.nextGroup ≤ index ∧ index < next.nextGroup ∧
      state.Extends limit [.alt (seqAll parts) (.group index body)] next ∧
        Passes state
          ('(' :: '?' :: ':' :: (cs ++ '|' :: '(' :: (text.toList ++ ')' :: ')' :: rest)))
          next rest := by
  let second : List Char := text.toList ++ ')' :: ')' :: rest
  have tight : state.flags.spaced = false := flags ▸ rfl
  have opens : Passes state ('(' :: '?' :: ':' :: (cs ++ '|' :: '(' :: second))
      (state.open none state.flags) (cs ++ '|' :: '(' :: second) := passes_open tight
  obtain ⟨middle, parts, shape, reached, passes⟩ :=
    first (state.open none state.flags) ('|' :: '(' :: second) flags
  obtain ⟨sequence, small⟩ := reached.sequence rfl
  have flags' : middle.flags = (start ignoreCase).flags := reached.flags.trans flags
  have groups : state.nextGroup ≤ middle.nextGroup := reached.nextGroup
  have opened : middle.opened = ⟨state.level, none, state.flags⟩ :: state.opened := reached.opened
  have before : middle.level.alternatives = [] := reached.alternatives
  have bar : Passes middle ('|' :: '(' :: second) (nextAlternative middle) ('(' :: second) :=
    passes_item (flags' ▸ rfl) rfl rfl (Nat.le_refl _)
  have within := opens.trans (passes.trans bar)
  have goes' := (goes.pass within).imp_left fun free => free (nextAlternative middle).names
  have same : (nextAlternative middle).flags = (start ignoreCase).flags := flags'
  obtain ⟨body, nextGroup, names, alike, further, passes'⟩ :=
    standalone.passes_numbered same goes'
  let last : Level :=
    ⟨[middle.level.sequence], [⟨.group middle.nextGroup body, piece.depth + 1, false⟩]⟩
  have closes : Passes ⟨middle.flags, last, middle.opened, nextGroup, names⟩ (')' :: rest)
      ⟨state.flags, state.level.push ⟨last.finish.pattern, last.finish.depth + 1, false⟩,
        state.opened, nextGroup, names⟩ rest := by
    rw [opened]
    exact passes_close
  have either : last.finish.pattern = .alt (seqAll parts) (.group middle.nextGroup body) := by
    rw [← sequence]
    rfl
  have depth : last.finish.depth + 1 ≤ limit := by
    have most : last.finish.depth ≤ max (few + 1) (piece.depth + 1) + 1 := by
      refine nested_le fun part member => ?_
      rcases List.mem_cons.mp member with rfl | member
      · exact le_max_right _ _
      · rw [List.mem_singleton.mp member]
        exact small.trans (le_max_left _ _)
    omega
  let whole : Piece := ⟨last.finish.pattern, last.finish.depth + 1, false⟩
  have small : whole.depth ≤ limit := depth
  have pushed : state.Extends limit [whole.pattern] _ :=
    .push state small (groups.trans further.le) names
  have fresh : middle.nextGroup < nextGroup := further
  rw [nextAlternative, before] at passes' within
  exact ⟨_, parts, middle.nextGroup, body, shape, alike, groups, fresh, either ▸ pushed,
    within.trans (passes'.trans closes)⟩

end Standalone

end Groups

end Scrutiny.Pattern
