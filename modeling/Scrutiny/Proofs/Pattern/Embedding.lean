import Scrutiny.Proofs.Pattern.Action

/-! # Reading a pattern text inside another

A text that is read on its own is read item by item in the same way where it stands inside a group
of a longer text: the reader goes through states that are alike, apart from what was open before and
from the numbers of groups, and comes to the closing parenthesis with the same pattern
(`readLoop_embeds`). A text that ends in a comment takes the parenthesis with it instead. Read with
case ignored, a text has the same structure as without, with other sets in it
(`readLoop_alike`).
-/

namespace Scrutiny

/-- Patterns of one structure: groups may have other numbers, and sets may differ as far as case is
treated differently. -/
inductive Pattern.Alike (casing : Pattern.Casing) : Pattern → Pattern → Prop
  | empty : Alike casing .empty .empty
  | one {left right : Pattern.CharSet} (sets : left.Alike casing right) :
    Alike casing (.one left) (.one right)
  | assertion (condition : Pattern.Assertion) :
    Alike casing (.assertion condition) (.assertion condition)
  | group {body other : Pattern} (index index' : Nat) (inner : Alike casing body other) :
    Alike casing (.group index body) (.group index' other)
  | seq {first second first' second' : Pattern} (one : Alike casing first first')
    (two : Alike casing second second') : Alike casing (.seq first second) (.seq first' second')
  | alt {first second first' second' : Pattern} (one : Alike casing first first')
    (two : Alike casing second second') : Alike casing (.alt first second) (.alt first' second')
  | rep {body other : Pattern} (least : Nat) (most : Option Nat) (greedy : Bool)
    (inner : Alike casing body other) :
    Alike casing (.rep least most greedy body) (.rep least most greedy other)

namespace Pattern

variable {casing : Casing}

theorem Alike.refl (pattern : Pattern) : pattern.Alike casing pattern := by
  induction pattern with
  | empty => exact .empty
  | one set => exact .one (.refl set)
  | assertion condition => exact .assertion condition
  | group index _ ih => exact .group index index ih
  | seq _ _ one two => exact .seq one two
  | alt _ _ one two => exact .alt one two
  | rep least most greedy _ ih => exact .rep least most greedy ih

theorem Alike.groupCount {left right : Pattern} (alike : left.Alike casing right) :
    left.groupCount = right.groupCount := by
  induction alike with
  | empty => rfl
  | one => rfl
  | assertion => rfl
  | group _ _ _ ih => exact congrArg (· + 1) ih
  | seq _ _ one two => exact congrArg₂ (· + ·) one two
  | alt _ _ one two => exact congrArg₂ (· + ·) one two
  | rep least most greedy _ ih => simp only [Pattern.groupCount, ih]

theorem Alike.seqAll {left right : List Pattern} (alike : List.Forall₂ (Alike casing) left right) :
    (seqAll left).Alike casing (Pattern.seqAll right) := by
  induction alike with
  | nil => exact .empty
  | cons first rest ih =>
    cases rest with
    | nil => exact first
    | cons => exact .seq first ih

theorem Alike.altAll {left right : List Pattern} (alike : List.Forall₂ (Alike casing) left right) :
    (altAll left).Alike casing (Pattern.altAll right) := by
  induction alike with
  | nil => exact .empty
  | cons first rest ih =>
    cases rest with
    | nil => exact first
    | cons => exact .alt first ih

/-- Options that differ at most in whether case is ignored, as far as this is allowed. -/
def Flags.Alike (casing : Casing) (left right : Flags) : Prop :=
  ∃ ignoreCase, right = left.withCase ignoreCase ∧ casing.Allows left.ignoreCase ignoreCase

theorem Flags.Alike.refl (flags : Flags) : flags.Alike casing flags :=
  ⟨flags.ignoreCase, rfl, .refl flags.ignoreCase⟩

/-- Parts of one structure. -/
structure Piece.Alike (casing : Casing) (left right : Piece) : Prop where
  pattern : left.pattern.Alike casing right.pattern
  depth : left.depth = right.depth
  directive : left.directive = right.directive

/-- Levels whose parts are alike. -/
structure Level.Alike (casing : Casing) (left right : Level) : Prop where
  alternatives : List.Forall₂ (Piece.Alike casing) left.alternatives right.alternatives
  items : List.Forall₂ (Piece.Alike casing) left.items right.items

/-- Open groups that are alike; both have a number or neither. -/
structure OpenGroup.Alike (casing : Casing) (left right : OpenGroup) : Prop where
  outer : left.outer.Alike casing right.outer
  numbered : left.index.isSome = right.index.isSome
  flags : left.flags.Alike casing right.flags

/-- A state inside a longer text: alike, but with more groups open around it. -/
structure ReaderState.Embeds (casing : Casing) (around : List OpenGroup)
    (left right : ReaderState) :
    Prop where
  flags : left.flags.Alike casing right.flags
  level : left.level.Alike casing right.level
  opened : ∃ inner, right.opened = inner ++ around ∧
    List.Forall₂ (OpenGroup.Alike casing) left.opened inner

/-- Actions that are alike. -/
inductive Action.Alike (casing : Casing) : Action → Action → Prop
  | enter (name : Option (List Char)) (numbered : Bool) {left right : Flags}
    (flags : left.Alike casing right) :
    Alike casing (.enter name numbered left) (.enter name numbered right)
  | switch {left right : Flags} (flags : left.Alike casing right) :
    Alike casing (.switch left) (.switch right)
  | leave : Alike casing .leave .leave
  | alternative : Alike casing .alternative .alternative
  | item {left right : Pattern} (pattern : left.Alike casing right) (depth : Nat) :
    Alike casing (.item left depth) (.item right depth)
  | repetition (least : Nat) (most : Option Nat) (lazy : Bool) :
    Alike casing (.repetition least most lazy) (.repetition least most lazy)

section Levels

variable {left right : Level}

theorem nested_alike {parts others : List Piece}
    (alike : List.Forall₂ (Piece.Alike casing) parts others) : nested parts = nested others := by
  refine congrArg (fun depths => List.foldl max 0 depths + 1) ?_
  rw [← List.forall₂_eq_eq_eq, List.forall₂_map_left_iff, List.forall₂_map_right_iff]
  exact alike.imp fun _ _ alike => alike.depth

/-- The patterns of alike pieces, in the order of the text, are alike. -/
theorem patterns_alike {parts others : List Piece}
    (alike : List.Forall₂ (Piece.Alike casing) parts others) :
    List.Forall₂ (Pattern.Alike casing) (parts.reverse.map Piece.pattern)
      (others.reverse.map Piece.pattern) := by
  rw [List.forall₂_map_left_iff, List.forall₂_map_right_iff]
  exact (List.forall₂_reverse_iff.mpr alike).imp fun _ _ alike => alike.pattern

/-- What is read of an alternative so far gives alike patterns. -/
theorem Level.Alike.sequence (alike : left.Alike casing right) :
    left.sequence.Alike casing right.sequence := by
  obtain ⟨alternatives, items⟩ := left
  obtain ⟨alternatives', items'⟩ := right
  obtain ⟨_, items⟩ := alike
  cases items with
  | nil => exact ⟨.empty, rfl, rfl⟩
  | cons first rest =>
    cases rest with
    | nil => exact first
    | cons second rest =>
      have all := List.Forall₂.cons first (List.Forall₂.cons second rest)
      exact ⟨.seqAll (patterns_alike all), nested_alike all, rfl⟩

/-- Levels that are alike are finished to alike pieces. -/
theorem Level.Alike.finish (alike : left.Alike casing right) :
    left.finish.Alike casing right.finish := by
  have sequence := alike.sequence
  obtain ⟨alternatives, items⟩ := left
  obtain ⟨alternatives', items'⟩ := right
  obtain ⟨alternatives, _⟩ := alike
  cases alternatives with
  | nil => exact sequence
  | cons first rest =>
    have all := List.Forall₂.cons sequence (List.Forall₂.cons first rest)
    exact ⟨.altAll (patterns_alike all), nested_alike all, rfl⟩

/-- Alike levels are alike still with alike pieces at their ends. -/
theorem Level.Alike.push (alike : left.Alike casing right) {piece other : Piece}
    (pieces : piece.Alike casing other) : (left.push piece).Alike casing (right.push other) :=
  ⟨alike.alternatives, .cons pieces alike.items⟩

theorem Level.Alike.nil : Level.Alike casing {} {} :=
  ⟨.nil, .nil⟩

end Levels

section Decoding

variable {flags flags' : Flags} {suffix : List Char}

/-- Flags are read in the same way whatever follows them. -/
theorem readFlags_append (alike : flags.Alike casing flags') {seen seen' : List Char}
    {negated dangling : Bool} {cs rest : List Char} {found : Flags} {last : Char}
    (read : readFlags flags seen negated dangling cs = some (found, seen', last, rest))
    (suffix : List Char) :
    ∃ found', readFlags flags' seen negated dangling (cs ++ suffix) =
      some (found', seen', last, rest ++ suffix) ∧ found.Alike casing found' := by
  induction cs generalizing flags flags' seen negated dangling with
  | nil => exact nomatch read
  | cons c cs ih =>
    rw [List.cons_append]
    unfold readFlags at read ⊢
    by_cases ends : c = ')' ∨ c = ':'
    · rw [if_pos ends] at read ⊢
      by_cases dangles : dangling = true
      · rw [if_pos dangles] at read
        exact nomatch read
      · rw [if_neg dangles] at read ⊢
        cases read
        exact ⟨flags', rfl, alike⟩
    rw [if_neg ends] at read ⊢
    by_cases hyphen : c = '-'
    · rw [if_pos hyphen] at read ⊢
      by_cases twice : negated = true
      · rw [if_pos twice] at read
        exact nomatch read
      · rw [if_neg twice] at read ⊢
        exact ih alike read
    rw [if_neg hyphen] at read ⊢
    by_cases again : seen.contains c = true
    · rw [if_pos again] at read
      exact nomatch read
    rw [if_neg again] at read ⊢
    obtain ⟨ignoreCase, rfl, same⟩ := alike
    split at read
    · exact ih (.refl _) read
    all_goals first
      | refine ih ?_ read
        exact ⟨ignoreCase, rfl, same⟩
      | exact nomatch read

/-- The name of a group is read in the same way whatever follows it. -/
theorem groupName_append {cs name rest : List Char} (read : groupName cs = some (name, rest))
    (suffix : List Char) : groupName (cs ++ suffix) = some (name, rest ++ suffix) := by
  unfold groupName at read ⊢
  by_cases close : '>' ∈ cs
  · obtain ⟨text, after, rfl, absent⟩ := List.eq_append_cons_of_mem close
    rw [List.append_assoc, List.cons_append]
    simp only [takeWhile_stop absent, List.drop_left] at read ⊢
    cases text with
    | nil => exact nomatch read
    | cons first others =>
      simp only [Option.ite_none_right_eq_some] at read ⊢
      obtain ⟨named, result⟩ := read
      cases result
      exact ⟨named, rfl⟩
  · simp only [takeWhile_all close, List.drop_length, reduceCtorEq] at read

/-- What an item asks for is the same where more text follows, or it has taken all of its text and a
comment at the end of that. -/
def DecodesAlike (casing : Casing) (flags : Flags)
    (asks : Flags → List Char → Option (Action × List Char)) (cs : List Char) : Prop :=
  ∀ action rest, asks flags cs = some (action, rest) →
    (∀ flags' suffix, flags.Alike casing flags' → Follower suffix →
      ∃ action', asks flags' (cs ++ suffix) = some (action', rest ++ suffix) ∧
        action.Alike casing action') ∨
    rest = [] ∧ ∀ flags' suffix, flags.Alike casing flags' → '\n' ∉ suffix →
      ∃ action', asks flags' (cs ++ suffix) = some (action', []) ∧ action.Alike casing action'

/-- The opening of a named group is read in the same way whatever follows it. -/
theorem decodeName_alike (flags : Flags) (cs : List Char) :
    DecodesAlike casing flags decodeName cs := by
  intro action rest read
  obtain ⟨⟨name, after⟩, named, same⟩ := Option.map_eq_some_iff.mp read
  cases same
  refine .inl fun flags' suffix alike _ => ⟨_, ?_, .enter (some name) true alike⟩
  rw [decodeName, groupName_append named suffix]
  rfl

/-- Flags, set for what follows or for a group, are read in the same way whatever follows them. -/
theorem decodeFlags_alike (flags : Flags) (cs : List Char) :
    DecodesAlike casing flags decodeFlags cs := by
  intro action rest read
  obtain ⟨⟨found, seen, last, after⟩, options, result⟩ := Option.bind_eq_some_iff.mp read
  refine .inl fun flags' suffix alike _ => ?_
  obtain ⟨found', options', alike'⟩ := readFlags_append alike options suffix
  simp only [decodeFlags, options', Option.bind_some]
  simp only at result
  split at result
  · next colon =>
    cases result
    exact ⟨_, if_pos colon, .enter none false alike'⟩
  · next colon =>
    rw [if_neg colon]
    split at result
    · exact nomatch result
    · next some =>
      cases result
      exact ⟨_, if_neg some, .switch alike'⟩

/-- What stands after a question mark is read in the same way whatever follows it. -/
theorem decodeMarked_alike (flags : Flags) (cs : List Char) :
    DecodesAlike casing flags decodeMarked cs := by
  by_cases short : ∃ rest, cs = '<' :: rest
  · obtain ⟨rest, rfl⟩ := short
    exact decodeName_alike flags rest
  by_cases long : ∃ rest, cs = 'P' :: '<' :: rest
  · obtain ⟨rest, rfl⟩ := long
    exact decodeName_alike flags rest
  have plain (flags : Flags) : decodeMarked flags cs = decodeFlags flags cs :=
    decodeMarked_flags flags (fun rest same => short ⟨rest, same⟩)
      fun rest same => long ⟨rest, same⟩
  intro action rest read
  rw [plain] at read
  -- The two names could only begin past the end of the text, and options do not begin so.
  have further (flags : Flags) (suffix : List Char) :
      decodeMarked flags (cs ++ suffix) = decodeFlags flags (cs ++ suffix) := by
    match cs with
    | [] => exact nomatch read
    | [c] =>
      refine decodeMarked_flags flags (fun after same => ?_) fun after same => ?_
      · exact short ⟨[], congrArg (· :: []) (List.cons.inj same).1⟩
      · obtain ⟨rfl, _⟩ := List.cons.inj same
        exact nomatch read
    | c :: d :: others =>
      refine decodeMarked_flags flags (fun after same => ?_) fun after same => ?_
      · exact short ⟨d :: others, congrArg (· :: d :: others) (List.cons.inj same).1⟩
      · obtain ⟨rfl, tail⟩ := List.cons.inj same
        obtain ⟨rfl, _⟩ := List.cons.inj tail
        exact long ⟨others, rfl⟩
  simp only [further]
  exact decodeFlags_alike flags cs action rest read

/-- What opens a group or sets flags is read in the same way whatever follows it. -/
theorem decodeGroup_alike (flags : Flags) (cs : List Char) :
    DecodesAlike casing flags decodeGroup cs := by
  have numbered (flags : Flags) {cs : List Char} (plain : (flags.skip cs).head? ≠ some '?') :
      decodeGroup flags cs = some (.enter none true flags, flags.skip cs) := by
    unfold decodeGroup
    split
    · next same => exact absurd (congrArg List.head? same) plain
    · rfl
  intro action rest read
  cases skipped : flags.skip cs with
  | nil =>
    rw [numbered flags (by rw [skipped]; exact nofun), skipped] at read
    cases read
    rcases skip_nil flags skipped with ended | comment
    · refine .inl fun flags' suffix alike follower => ⟨_, ?_, .enter none true alike⟩
      obtain ⟨ignoreCase, rfl, _⟩ := alike
      have left : (flags.withCase ignoreCase).skip (cs ++ suffix) = suffix := ended suffix follower
      rw [numbered _ (by rw [left]; exact fun mark => nomatch (follower '?' mark)), left]
      rfl
    · refine .inr ⟨rfl, fun flags' suffix alike absent => ⟨_, ?_, .enter none true alike⟩⟩
      obtain ⟨ignoreCase, rfl, _⟩ := alike
      have left : (flags.withCase ignoreCase).skip (cs ++ suffix) = [] :=
        (comment suffix).trans (skipComment_of_notMem absent)
      rw [numbered _ (by rw [left]; exact nofun), left]
  | cons c others =>
    have further (ignoreCase : Bool) (suffix : List Char) :
        (flags.withCase ignoreCase).skip (cs ++ suffix) = c :: (others ++ suffix) :=
      skip_cons flags skipped suffix
    by_cases mark : c = '?'
    · subst mark
      simp only [decodeGroup, skipped] at read
      have marked : DecodesAlike casing flags decodeMarked others := decodeMarked_alike flags others
      refine (marked action rest read).imp ?_ ?_
      · intro carried flags' suffix alike follower
        obtain ⟨action', marked, actions⟩ := carried flags' suffix alike follower
        obtain ⟨ignoreCase, rfl, _⟩ := alike
        exact ⟨action', by simp only [decodeGroup, further, marked], actions⟩
      · intro swallowed
        refine ⟨swallowed.1, fun flags' suffix alike absent => ?_⟩
        obtain ⟨action', marked, actions⟩ := swallowed.2 flags' suffix alike absent
        obtain ⟨ignoreCase, rfl, _⟩ := alike
        exact ⟨action', by simp only [decodeGroup, further, marked], actions⟩
    · have plain (rest : List Char) : (c :: rest).head? ≠ some '?' :=
        fun same => mark (Option.some.inj same)
      rw [numbered flags (skipped ▸ plain others), skipped] at read
      cases read
      refine .inl fun flags' suffix alike _ => ⟨_, ?_, .enter none true alike⟩
      obtain ⟨ignoreCase, rfl, _⟩ := alike
      rw [numbered _ (further ignoreCase suffix ▸ plain _), further]
      rfl

/-- Whether a repetition is lazy is told by the next character alone. -/
theorem lazyMark_cons (c : Char) (rest suffix : List Char) :
    lazyMark (c :: (rest ++ suffix)) =
      ((lazyMark (c :: rest)).1, (lazyMark (c :: rest)).2 ++ suffix) := by
  by_cases mark : c = '?'
  · subst mark
    rfl
  · unfold lazyMark
    simp only [List.cons.injEq, mark, false_and, imp_self, implies_true, List.cons_append]

/-- The text that follows an embedded one makes no repetition lazy. -/
theorem lazyMark_follower {suffix : List Char} (follower : Follower suffix) :
    lazyMark suffix = (false, suffix) := by
  rcases follower.cases with rfl | ⟨rest, rfl⟩ <;> rfl

/-- The bounds of a repetition are read in the same way whatever follows them. -/
theorem decodeBounds_alike (flags : Flags) (cs : List Char) :
    DecodesAlike casing flags decodeBounds cs := by
  intro action rest read
  obtain ⟨⟨text, after⟩, inside, result⟩ := Option.bind_eq_some_iff.mp read
  obtain ⟨bounds, counted, result⟩ := Option.map_eq_some_iff.mp result
  have decoded (ignoreCase : Bool) (suffix : List Char) :
      decodeBounds (flags.withCase ignoreCase) (cs ++ suffix) =
        some (.repetition bounds.1 bounds.2 (lazyMark (flags.skip (after ++ suffix))).1,
          (lazyMark (flags.skip (after ++ suffix))).2) := by
    simp only [decodeBounds, Flags.spaced_withCase, untilBrace_append _ inside, Option.bind_some,
      counted, Option.map_some, Flags.skip_withCase]
  simp only at result
  cases skipped : flags.skip after with
  | nil =>
    rw [skipped] at result
    cases result
    rcases skip_nil flags skipped with ended | comment
    · refine .inl fun flags' suffix alike follower => ⟨_, ?_, .repetition _ _ _⟩
      obtain ⟨ignoreCase, rfl, _⟩ := alike
      rw [decoded, ended suffix follower, lazyMark_follower follower]
      rfl
    · refine .inr ⟨rfl, fun flags' suffix alike absent => ⟨_, ?_, .repetition _ _ _⟩⟩
      obtain ⟨ignoreCase, rfl, _⟩ := alike
      rw [decoded, comment, skipComment_of_notMem absent]
      rfl
  | cons c others =>
    rw [skipped] at result
    cases result
    refine .inl fun flags' suffix alike _ => ⟨_, ?_, .repetition _ _ _⟩
    obtain ⟨ignoreCase, rfl, _⟩ := alike
    rw [decoded, skip_cons flags skipped, lazyMark_cons]

/-- The patterns of single items are alike. -/
theorem Primitive.Alike.pattern? (alike : flags.Alike casing flags') {item other : Primitive}
    (items : item.Alike (CharSet.Alike casing) other) :
    Option.Rel (Pattern.Alike casing) (item.pattern? flags) (other.pattern? flags') := by
  obtain ⟨ignoreCase, rfl, allowed⟩ := alike
  cases items with
  | set sets => exact .some (.one sets)
  | same =>
    cases item with
    | literal c byte =>
      have fits : ((flags.withCase ignoreCase).unicode || decide (c.toNat < 128) || !byte) =
          (flags.unicode || decide (c.toNat < 128) || !byte) := rfl
      simp only [Primitive.pattern?]
      by_cases fit : (flags.unicode || decide (c.toNat < 128) || !byte) = true
      · rw [if_pos fit, if_pos (fits.trans fit)]
        exact .some (.one (.fold (.refl _) allowed))
      · rw [if_neg fit, if_neg fun other => fit (fits.symm.trans other)]
        exact .none
    | dot =>
      have unchanged : Primitive.dot.pattern? (flags.withCase ignoreCase) =
          Primitive.dot.pattern? flags := rfl
      rw [unchanged]
      cases Primitive.dot.pattern? flags with
      | none => exact .none
      | some pattern => exact .some (.refl pattern)
    | assertion condition => exact .some (.assertion condition)
    | set members => exact .some (.one (.refl members))

/-- A closer relation between the sets gives a closer relation between the items. -/
theorem Primitive.Alike.mono {sets others : CharSet → CharSet → Prop} {left right : Primitive}
    (alike : Primitive.Alike sets left right)
    (stronger : ∀ left right, sets left right → others left right) :
    Primitive.Alike others left right := by
  cases alike with
  | same => exact .same left
  | set both => exact .set (stronger _ _ both)

/-- A single item is asked for alike. -/
theorem decodePrimitive_alike (alike : flags.Alike casing flags') {item other : Primitive}
    (items : item.Alike (CharSet.Alike casing) other) {rest left : List Char} {action : Action}
    (read : ((item.pattern? flags).map fun pattern => (Action.item pattern 0, rest)) =
      some (action, left)) (suffix : List Char) :
    ∃ action', ((other.pattern? flags').map fun pattern =>
      (Action.item pattern 0, rest ++ suffix)) = some (action', left ++ suffix) ∧
        action.Alike casing action' := by
  obtain ⟨pattern, known, same⟩ := Option.map_eq_some_iff.mp read
  cases same
  have patterns := items.pattern? alike
  rw [known] at patterns
  obtain ⟨pattern', known', patterns⟩ : ∃ pattern', other.pattern? flags' = some pattern' ∧
      pattern.Alike casing pattern' := by
    generalize other.pattern? flags' = found at patterns
    cases patterns with
    | some patterns => exact ⟨_, rfl, patterns⟩
  exact ⟨.item pattern' 0, by rw [known']; rfl, .item patterns 0⟩

/-- Whether the last repetition of an embedded text is lazy is not changed by what follows. -/
theorem lazyMark_append {cs suffix : List Char} (follower : Follower suffix) :
    lazyMark (cs ++ suffix) = ((lazyMark cs).1, (lazyMark cs).2 ++ suffix) := by
  cases cs with
  | nil => exact lazyMark_follower follower
  | cons c rest => exact lazyMark_cons c rest suffix

/-- What an item asks for is the same where more text follows, and that text is left. -/
def DecodesOn (casing : Casing) (flags : Flags)
    (asks : Flags → List Char → Option (Action × List Char)) (cs : List Char) : Prop :=
  ∀ action rest, asks flags cs = some (action, rest) →
    ∀ flags' suffix, flags.Alike casing flags' → Follower suffix →
      ∃ action', asks flags' (cs ++ suffix) = some (action', rest ++ suffix) ∧
        action.Alike casing action'

section Items

variable {c : Char} {cs : List Char}

/-- A sign that repeats the last item is read alike in both texts. -/
theorem decodesOn_repetition (least : Nat) (most : Option Nat) (asks : ∀ flags cs,
    decode flags c cs = some (.repetition least most (lazyMark cs).1, (lazyMark cs).2)) :
    DecodesOn casing flags (decode · c) cs := by
  intro action rest read flags' suffix alike follower
  beta_reduce at read ⊢
  rw [asks] at read
  cases read
  rw [asks, lazyMark_append follower]
  exact ⟨_, rfl, .repetition _ _ _⟩

/-- An item that does not look at the case is read alike in both texts. -/
theorem decodesOn_primitive (item : Flags → Primitive) (asks : ∀ flags cs, decode flags c cs =
      ((item flags).pattern? flags).map fun pattern => (.item pattern 0, cs))
    (same : ∀ ignoreCase, item (flags.withCase ignoreCase) = item flags) :
    DecodesOn casing flags (decode · c) cs := by
  intro action rest read flags' suffix alike _
  beta_reduce at read ⊢
  rw [asks] at read
  rw [asks]
  refine decodePrimitive_alike alike ?_ read suffix
  obtain ⟨ignoreCase, rfl, _⟩ := alike
  rw [same]
  exact .same _

/-- A sign that leaves the text after it alone is read alike in both texts. -/
theorem decodesOn_sign {sign : Action} (asks : ∀ flags cs, decode flags c cs = some (sign, cs))
    (same : sign.Alike casing sign) : DecodesOn casing flags (decode · c) cs := by
  intro action rest read flags' suffix _ _
  beta_reduce at read
  rw [asks] at read
  cases read
  exact ⟨_, asks flags' _, same⟩

theorem decodesOn_bracket : DecodesOn casing flags (decode · '[') cs := by
  intro action rest read flags' suffix alike follower
  obtain ⟨⟨found, after⟩, inside, same⟩ := Option.map_eq_some_iff.mp read
  cases same
  obtain ⟨ignoreCase, rfl, allowed⟩ := alike
  obtain ⟨found', inside', agree⟩ :=
    bracket_carried flags ignoreCase follower ('[' :: cs) found after inside
  have decoded : decode (flags.withCase ignoreCase) '[' (cs ++ suffix) =
      some (.item (.one found'.set) found'.depth, after ++ suffix) := by
    simp only [decode]
    rw [← List.cons_append, inside']
    rfl
  refine ⟨_, decoded, ?_⟩
  rw [← agree.depth]
  exact .item (.one ⟨fun keeps => agree.set.same (allowed.same keeps),
    fun ignores => agree.set.folds (allowed.grows ignores)⟩) _

theorem decodesOn_escape : DecodesOn casing flags (decode · '\\') cs := by
  intro action rest read flags' suffix alike follower
  obtain ⟨⟨item, after⟩, escaped, found⟩ := Option.bind_eq_some_iff.mp read
  obtain ⟨item', escaped', items⟩ : ∃ item', escape flags' (cs ++ suffix) =
      some (item', after ++ suffix) ∧ item.Alike (CharSet.Alike casing) item' := by
    obtain ⟨ignoreCase, rfl, allowed⟩ := alike
    obtain ⟨item', escaped', items⟩ :=
      escape_carried flags ignoreCase follower cs item after escaped
    exact ⟨item', escaped', items.mono fun _ _ recast =>
      ⟨fun keeps => recast.same (.inl (allowed.same keeps)),
        fun ignores => recast.folds (allowed.grows ignores)⟩⟩
  obtain ⟨action', asked, actions⟩ := decodePrimitive_alike alike items found suffix
  refine ⟨action', ?_, actions⟩
  simp only [decode, escaped', Option.bind_some]
  exact asked

end Items

/-- What an item asks for is the same where more text follows, or a comment takes that text. -/
theorem decode_alike (flags : Flags) (c : Char) (cs : List Char) :
    DecodesAlike casing flags (decode · c) cs := by
  by_cases paren : c = '('
  · subst paren
    exact decodeGroup_alike flags cs
  by_cases brace : c = '\x7b'
  · subst brace
    exact decodeBounds_alike flags cs
  suffices DecodesOn casing flags (decode · c) cs from
    fun action rest read => .inl (this action rest read)
  by_cases square : c = '['
  · subst square
    exact decodesOn_bracket
  by_cases backslash : c = '\\'
  · subst backslash
    exact decodesOn_escape
  by_cases close : c = ')'
  · subst close
    exact decodesOn_sign (fun _ _ => rfl) .leave
  by_cases bar : c = '|'
  · subst bar
    exact decodesOn_sign (fun _ _ => rfl) .alternative
  by_cases mark : c = '?'
  · subst mark
    exact decodesOn_repetition 0 (some 1) fun _ _ => rfl
  by_cases star : c = '*'
  · subst star
    exact decodesOn_repetition 0 none fun _ _ => rfl
  by_cases plus : c = '+'
  · subst plus
    exact decodesOn_repetition 1 none fun _ _ => rfl
  by_cases dot : c = '.'
  · subst dot
    exact decodesOn_primitive (fun _ => .dot) (fun _ _ => rfl) fun _ => rfl
  by_cases caret : c = '^'
  · subst caret
    exact decodesOn_primitive (fun flags => .assertion
      (if flags.multiLine then .lineStart flags.returns else .textStart)) (fun _ _ => rfl)
      fun _ => rfl
  by_cases dollar : c = '$'
  · subst dollar
    exact decodesOn_primitive (fun flags => .assertion
      (if flags.multiLine then .lineEnd flags.returns else .textEnd)) (fun _ _ => rfl)
      fun _ => rfl
  refine decodesOn_primitive (fun _ => .literal c false) (fun flags cs => ?_) fun _ => rfl
  unfold decode
  split <;> first | rfl | contradiction

end Decoding

section Applying

variable {around : List OpenGroup} {state other next next' : ReaderState} {action action' : Action}

/-- Repeating the last item keeps a state embedded, with the same names and numbers. -/
theorem repeatLast_embeds (embeds : state.Embeds casing around other) {least : Nat}
    {most : Option Nat} {lazy : Bool} (repeats : repeatLast state least most lazy = some next) :
    ∃ next', repeatLast other least most lazy = some next' ∧ next.Embeds casing around next' ∧
      next.names = state.names ∧ next'.names = other.names ∧
      next'.nextGroup = other.nextGroup := by
  obtain ⟨flags, ⟨alternatives, items⟩, opened, nextGroup, names⟩ := state
  obtain ⟨flags', ⟨alternatives', items'⟩, opened', nextGroup', names'⟩ := other
  obtain ⟨options, ⟨before, parts⟩, groups⟩ := embeds
  cases parts with
  | nil => exact nomatch repeats
  | @cons last last' rest rest' piece others =>
    have greed : flags'.swapGreed = flags.swapGreed := by
      obtain ⟨ignoreCase, rfl, _⟩ := options
      rfl
    simp only [repeatLast, Option.ite_none_left_eq_some] at repeats ⊢
    obtain ⟨solid, repeats⟩ := repeats
    cases repeats
    rw [← piece.directive, greed]
    exact ⟨_, ⟨solid, rfl⟩, ⟨options, ⟨before, .cons ⟨.rep _ _ _ piece.pattern,
      congrArg (· + 1) piece.depth, rfl⟩ others⟩, groups⟩, rfl, rfl, rfl⟩

/-- A group that is closed is alike in both texts, as it has a number in both or in none. -/
theorem closed_alike {index index' : Option Nat} {body body' : Pattern}
    (alike : body.Alike casing body') : index.isSome = index'.isSome →
    Pattern.Alike casing
      (match index with
        | some index => .group index body
        | none => body)
      (match index' with
        | some index => .group index body'
        | none => body') := by
  intro numbered
  cases index with
  | none =>
    cases index' with
    | none => exact alike
    | some => exact nomatch numbered
  | some index =>
    cases index' with
    | none => exact nomatch numbered
    | some index' => exact .group index index' alike

/-- Closing a group keeps a state embedded: what was open around it is not touched. -/
theorem closeGroup_embeds (embeds : state.Embeds casing around other)
    (closes : closeGroup state = some next) :
    ∃ next', closeGroup other = some next' ∧ next.Embeds casing around next' ∧
      next.names = state.names ∧ next'.names = other.names ∧
      next'.nextGroup = other.nextGroup := by
  obtain ⟨flags, level, opened, nextGroup, names⟩ := state
  obtain ⟨flags', level', opened', nextGroup', names'⟩ := other
  obtain ⟨_, levels, inner, rfl, groups⟩ := embeds
  cases groups with
  | nil => exact nomatch closes
  | @cons innermost innermost' opened inner group rest =>
    cases closes
    have body := levels.finish
    exact ⟨_, rfl, ⟨group.flags, group.outer.push ⟨closed_alike body.pattern group.numbered,
      congrArg (· + 1) body.depth, rfl⟩, inner, rfl, rest⟩, rfl, rfl, rfl⟩

/-- Opening a group keeps a state embedded, whatever the numbers of the group. -/
theorem ReaderState.Embeds.open (embeds : state.Embeds casing around other)
    {index index' : Option Nat}
    (numbered : index.isSome = index'.isSome) {flags flags' : Flags}
    (options : flags.Alike casing flags') (names names' : List (List Char)) :
    ({ state with names := names }.open index flags).Embeds casing around
      ({ other with names := names' }.open index' flags') := by
  obtain ⟨inner, opened, groups⟩ := embeds.opened
  refine ⟨options, .nil, ⟨other.level, index', other.flags⟩ :: inner, ?_, ?_⟩
  · exact congrArg (_ :: ·) opened
  · exact .cons ⟨embeds.level, numbered, embeds.flags⟩ groups

/-- Alike actions keep states alike. Inside a longer text an action can only fail where a group has
a name that the text before it has used. -/
theorem apply_embeds (embeds : state.Embeds casing around other)
    (alike : action.Alike casing action')
    (applied : state.apply action = some next) :
    (other.names = state.names → ∃ next', other.apply action' = some next' ∧
        next'.names = next.names) ∧
      ∀ next', other.apply action' = some next' →
        next.Embeds casing around next' ∧ other.nextGroup ≤ next'.nextGroup := by
  have settled {result : Option ReaderState} {reached : ReaderState}
      (does : result = some reached) (embeds' : next.Embeds casing around reached)
      (names : next.names = state.names) (names' : reached.names = other.names)
      (groups : reached.nextGroup = other.nextGroup) :
      (other.names = state.names → ∃ next', result = some next' ∧ next'.names = next.names) ∧
        ∀ next', result = some next' →
          next.Embeds casing around next' ∧ other.nextGroup ≤ next'.nextGroup := by
    refine ⟨fun same => ⟨reached, does, names'.trans (same.trans names.symm)⟩,
      fun next' does' => ?_⟩
    obtain rfl := Option.some.inj (does.symm.trans does')
    exact ⟨embeds', groups.ge⟩
  cases alike with
  | enter name numbered options =>
    cases name with
    | none =>
      cases applied
      refine ⟨fun same => ⟨_, rfl, same⟩, fun next' applied' => ?_⟩
      cases applied'
      refine ⟨embeds.open ?_ options state.names other.names, ?_⟩
      · cases numbered <;> rfl
      · cases numbered with
        | false => exact Nat.le_refl _
        | true => exact Nat.le_succ _
    | some name =>
      simp only [ReaderState.apply, Option.ite_none_left_eq_some] at applied ⊢
      obtain ⟨fresh, applied⟩ := applied
      cases applied
      refine ⟨fun same => ⟨_, ⟨same ▸ fresh, rfl⟩, congrArg (name :: ·) same⟩,
        fun next' applied' => ?_⟩
      obtain ⟨_, applied'⟩ := applied'
      cases applied'
      have numbered : (some state.nextGroup).isSome = (some other.nextGroup).isSome := rfl
      exact ⟨embeds.open numbered options _ _, Nat.le_succ _⟩
  | switch options =>
    cases applied
    refine ⟨fun same => ⟨_, rfl, same⟩, fun next' applied' => ?_⟩
    cases applied'
    exact ⟨⟨options, embeds.level.push ⟨.empty, rfl, rfl⟩, embeds.opened⟩, Nat.le_refl _⟩
  | leave =>
    obtain ⟨closed, closes, embeds', kept_names, kept_names', kept_groups⟩ :=
      closeGroup_embeds embeds applied
    exact settled closes embeds' kept_names kept_names' kept_groups
  | alternative =>
    cases applied
    refine ⟨fun same => ⟨_, rfl, same⟩, fun next' applied' => ?_⟩
    cases applied'
    exact ⟨⟨embeds.flags, ⟨.cons embeds.level.sequence embeds.level.alternatives, .nil⟩,
      embeds.opened⟩, Nat.le_refl _⟩
  | item pattern depth =>
    cases applied
    refine ⟨fun same => ⟨_, rfl, same⟩, fun next' applied' => ?_⟩
    cases applied'
    exact ⟨⟨embeds.flags, embeds.level.push ⟨pattern, rfl, rfl⟩, embeds.opened⟩, Nat.le_refl _⟩
  | repetition least most lazy =>
    obtain ⟨repeated, repeats, embeds', kept_names, kept_names', kept_groups⟩ :=
      repeatLast_embeds embeds applied
    exact settled repeats embeds' kept_names kept_names' kept_groups

end Applying

section Reading

variable {state other : ReaderState} {cs : List Char} {piece : Piece} {bound : Nat}

/-- Where nothing is left to read, reading ends, with a pattern if no group is open. -/
theorem readLoop_over (ended : state.flags.skip cs = []) :
    readLoop (bound + 1) state cs =
      if state.opened.isEmpty then some state.level.finish else none := by
  simp only [readLoop, ended]

/-- Where something is left, reading decodes one sign, applies it and goes on. -/
theorem readLoop_step {c : Char} {rest : List Char} (left : state.flags.skip cs = c :: rest) :
    readLoop (bound + 1) state cs = (decode state.flags c rest).bind fun asked =>
      (state.apply asked.1).bind fun next => readLoop bound next asked.2 := by
  simp only [readLoop, left, readItem_eq, Option.bind_assoc, Option.bind_map]
  rfl

/-- Reading that succeeds at a sign has decoded it, applied it and gone on. -/
theorem readLoop_step_some {c : Char} {rest : List Char} (left : state.flags.skip cs = c :: rest)
    (read : readLoop (bound + 1) state cs = some piece) :
    ∃ action after next, decode state.flags c rest = some (action, after) ∧
      state.apply action = some next ∧ readLoop bound next after = some piece := by
  rw [readLoop_step left] at read
  obtain ⟨⟨action, after⟩, asked, read⟩ := Option.bind_eq_some_iff.mp read
  obtain ⟨next, applied, read⟩ := Option.bind_eq_some_iff.mp read
  exact ⟨action, after, next, asked, applied, read⟩

/-- Reading that succeeds with nothing left has every group closed. -/
theorem readLoop_over_some (ended : state.flags.skip cs = [])
    (read : readLoop bound state cs = some piece) :
    state.opened = [] ∧ state.level.finish = piece := by
  cases bound with
  | zero => exact nomatch read
  | succ bound =>
    rw [readLoop_over ended, Option.ite_none_right_eq_some] at read
    exact ⟨List.isEmpty_iff.mp read.1, Option.some.inj read.2⟩

/-- Comments and white space that are passed over make no difference. -/
theorem readLoop_skip {others : List Char}
    (same : state.flags.skip cs = state.flags.skip others) (bound : Nat) :
    readLoop bound state cs = readLoop bound state others := by
  cases bound with
  | zero => rfl
  | succ bound => simp only [readLoop, same]

theorem ReaderState.Embeds.skip {around : List OpenGroup}
    (embeds : state.Embeds casing around other) : other.flags.skip = state.flags.skip := by
  obtain ⟨ignoreCase, same, _⟩ := embeds.flags
  rw [same]
  rfl

/-- A state with no group open is embedded in the groups that are around it. -/
theorem ReaderState.Embeds.opened_nil {around : List OpenGroup}
    (embeds : state.Embeds casing around other) (none : state.opened = []) :
    other.opened = around := by
  obtain ⟨inner, opened, groups⟩ := embeds.opened
  rw [none, List.forall₂_nil_left_iff] at groups
  rw [opened, groups, List.nil_append]

/-- Reading with case ignored divides a text in the same way. -/
theorem readLoop_alike (embeds : state.Embeds casing [] other) (names : other.names = state.names)
    (read : readLoop bound state cs = some piece) :
    ∃ piece', readLoop bound other cs = some piece' ∧ piece.Alike casing piece' := by
  induction bound generalizing state other cs with
  | zero => exact nomatch read
  | succ bound ih =>
    cases left : state.flags.skip cs with
    | nil =>
      obtain ⟨opened, rfl⟩ := readLoop_over_some left read
      rw [readLoop_over (embeds.skip ▸ left), embeds.opened_nil opened]
      exact ⟨_, rfl, embeds.level.finish⟩
    | cons c rest =>
      obtain ⟨action, after, next, asked, applied, read⟩ := readLoop_step_some left read
      obtain ⟨action', asked', actions⟩ : ∃ action', decode other.flags c rest =
          some (action', after) ∧ action.Alike casing action' := by
        rcases decode_alike state.flags c rest action after asked with alike | ⟨rfl, alike⟩
        · have same := alike other.flags [] embeds.flags follower_nil
          rwa [List.append_nil, List.append_nil] at same
        · have same := alike other.flags [] embeds.flags List.not_mem_nil
          rwa [List.append_nil] at same
      obtain ⟨succeeds, keeps⟩ := apply_embeds embeds actions applied
      obtain ⟨next', applied', names'⟩ := succeeds names
      rw [readLoop_step (embeds.skip ▸ left), asked', Option.bind_some, applied', Option.bind_some]
      exact ih (keeps next' applied').1 names' read

/-- A larger bound on the signs gives no other pattern. -/
theorem readLoop_mono {bound more : Nat} (read : readLoop bound state cs = some piece)
    (many : bound ≤ more) : readLoop more state cs = some piece := by
  induction bound generalizing more state cs with
  | zero => exact nomatch read
  | succ bound ih =>
    obtain ⟨more, rfl⟩ := Nat.exists_eq_add_of_le' (Nat.le_of_add_left_le many)
    cases left : state.flags.skip cs with
    | nil => rwa [readLoop_over left] at read ⊢
    | cons c rest =>
      obtain ⟨action, after, next, asked, applied, read⟩ := readLoop_step_some left read
      rw [readLoop_step left, asked, Option.bind_some, applied, Option.bind_some]
      exact ih read (Nat.le_of_succ_le_succ many)

/-- Reading a text takes a state to another one, from which a rest of the text is read: what is read
in the end is the same. Every item takes some of the text. -/
def Passes (state : ReaderState) (cs : List Char) (next : ReaderState) (rest : List Char) : Prop :=
  ∃ items, items + rest.length ≤ cs.length ∧
    ∀ bound, readLoop (items + bound) state cs = readLoop bound next rest

namespace Passes

variable {middle next : ReaderState} {others rest : List Char}

theorem refl (state : ReaderState) (cs : List Char) : Passes state cs state cs :=
  ⟨0, Nat.le_of_eq (Nat.zero_add _), fun bound => by rw [Nat.zero_add]⟩

/-- Passing a text and then the rest of it is passing it. -/
theorem trans (first : Passes state cs middle others) (second : Passes middle others next rest) :
    Passes state cs next rest := by
  obtain ⟨items, length, same⟩ := first
  obtain ⟨further, shorter, same'⟩ := second
  refine ⟨items + further, by omega, fun bound => ?_⟩
  rw [Nat.add_assoc, same, same']

/-- One item. -/
theorem item {c : Char} {after : List Char} {action : Action}
    (left : state.flags.skip cs = c :: after)
    (asked : decode state.flags c after = some (action, rest))
    (applied : state.apply action = some next) (shorter : rest.length < cs.length) :
    Passes state cs next rest := by
  refine ⟨1, by omega, fun bound => ?_⟩
  rw [Nat.add_comm, readLoop_step left, asked, Option.bind_some, applied, Option.bind_some]

/-- The pattern of a text is read from where a part of it has been passed. -/
theorem read (passes : Passes state cs next rest) (read : readLoop bound state cs = some piece) :
    readLoop bound next rest = some piece := by
  obtain ⟨items, _, same⟩ := passes
  rw [← same]
  exact readLoop_mono read (Nat.le_add_left _ _)

/-- Coming to the end of a text without a group open, what has been read is the pattern. -/
theorem finish (passes : Passes state cs next []) (closed : next.opened = []) :
    readLoop (cs.length + 1) state cs = some next.level.finish := by
  obtain ⟨items, length, same⟩ := passes
  obtain ⟨more, enough⟩ := Nat.exists_eq_add_of_le length
  rw [List.length_nil, Nat.add_zero] at enough
  rw [enough, Nat.add_assoc, same, readLoop_over (skip_follower _ follower_nil), closed]
  rfl

end Passes

/-- Reading a text in a state inside another text comes to the parenthesis that follows it, with the
same pattern. -/
def Arrives (casing : Casing) (bound : Nat) (cs : List Char) (piece : Piece) (rest : List Char)
    (around : List OpenGroup) (other : ReaderState) : Prop :=
  ∃ (items : Nat) (last last' : ReaderState), items < bound ∧ last.Embeds casing around last' ∧
    last.opened = [] ∧ last.level.finish = piece ∧ other.nextGroup ≤ last'.nextGroup ∧
      ∀ more, readLoop (items + more) other (cs ++ ')' :: rest) = readLoop more last' (')' :: rest)

/-- Reading a text inside another comes to the parenthesis that follows it, unless a group in it is
given a name that has been given before. -/
def Resumes (casing : Casing) (bound : Nat) (state : ReaderState) (cs : List Char) (piece : Piece) :
    Prop :=
  ∀ rest around other, state.Embeds casing around other →
    Arrives casing bound cs piece rest around other ∨
      other.names ≠ state.names ∧ ∀ more, readLoop more other (cs ++ ')' :: rest) = none

/-- A text ends in a comment and takes what follows on the line with it. -/
def Swallows (casing : Casing) (bound : Nat) (state : ReaderState) (cs : List Char)
    (piece : Piece) :
    Prop :=
  ∀ suffix around other, Follower suffix → '\n' ∉ suffix → state.Embeds casing around other →
    (∀ more piece', readLoop more other (cs ++ suffix) = some piece' → around = []) ∧
      (around = [] → other.names = state.names →
        ∃ piece', readLoop bound other (cs ++ suffix) = some piece' ∧ piece.Alike casing piece')

/-- A text with nothing left to read can only be the end where nothing is open around it. -/
theorem over_embeds {around : List OpenGroup} (embeds : state.Embeds casing around other)
    (read : readLoop bound state [] = some piece) {text : List Char}
    (ended : state.flags.skip text = []) :
    (∀ more piece', readLoop more other text = some piece' → around = []) ∧
      (around = [] →
        ∃ piece', readLoop bound other text = some piece' ∧ piece.Alike casing piece') := by
  obtain ⟨opened, finished⟩ :=
    readLoop_over_some (skip_follower state.flags follower_nil) read
  have skipped : other.flags.skip text = [] := embeds.skip ▸ ended
  refine ⟨fun more piece' read' => ?_, fun none => ?_⟩
  · rw [← embeds.opened_nil opened]
    exact (readLoop_over_some skipped read').1
  · cases bound with
    | zero => exact nomatch read
    | succ bound =>
      rw [readLoop_over skipped, embeds.opened_nil opened, none]
      exact ⟨_, rfl, finished ▸ embeds.level.finish⟩

/-- One more sign before a text that swallows what follows it swallows that too. -/
theorem swallows_step {c : Char} {rest : List Char} {action : Action} {next : ReaderState}
    {tail : List Char → List Char}
    (left : ∀ suffix, state.flags.skip (cs ++ suffix) = c :: (rest ++ suffix))
    (applied : state.apply action = some next)
    (asks : ∀ flags' suffix, state.flags.Alike casing flags' → Follower suffix → '\n' ∉ suffix →
      ∃ action', decode flags' c (rest ++ suffix) = some (action', tail suffix) ∧
        action.Alike casing action')
    (later : ∀ suffix around other, Follower suffix → '\n' ∉ suffix →
      next.Embeds casing around other →
      (∀ more piece', readLoop more other (tail suffix) = some piece' → around = []) ∧
        (around = [] → other.names = next.names →
          ∃ piece', readLoop bound other (tail suffix) = some piece' ∧ piece.Alike casing piece')) :
    Swallows casing (bound + 1) state cs piece := by
  intro suffix around other follower absent embeds
  obtain ⟨action', asked', actions⟩ := asks other.flags suffix embeds.flags follower absent
  have applies := apply_embeds embeds actions applied
  have left' : other.flags.skip (cs ++ suffix) = c :: (rest ++ suffix) := embeds.skip ▸ left suffix
  constructor
  · intro more piece' read'
    cases more with
    | zero => exact nomatch read'
    | succ more =>
      rw [readLoop_step left', asked', Option.bind_some] at read'
      obtain ⟨next', applied', read'⟩ := Option.bind_eq_some_iff.mp read'
      exact (later suffix around next' follower absent (applies.2 next' applied').1).1 _ _ read'
  · intro none names
    obtain ⟨next', applied', names'⟩ := applies.1 names
    rw [readLoop_step left', asked', Option.bind_some, applied', Option.bind_some]
    exact (later suffix around next' follower absent (applies.2 next' applied').1).2 none names'

/-- A text that is read on its own is read in the same way inside another, or it ends in a comment
that goes on. -/
theorem readLoop_embeds (read : readLoop bound state cs = some piece) :
    Resumes casing bound state cs piece ∨ Swallows casing bound state cs piece := by
  induction bound generalizing state cs with
  | zero => exact nomatch read
  | succ bound ih =>
    cases left : state.flags.skip cs with
    | nil =>
      obtain ⟨opened, finished⟩ := readLoop_over_some left read
      rcases skip_nil state.flags left with ended | comment
      · left
        intro rest around other embeds
        refine .inl ⟨0, state, other, Nat.succ_pos bound, embeds, opened, finished, Nat.le_refl _,
          fun more => ?_⟩
        rw [Nat.zero_add]
        refine readLoop_skip ?_ more
        rw [embeds.skip, ended _ (follower_paren rest), skip_follower _ (follower_paren rest)]
      · right
        intro suffix around other follower absent embeds
        have ended : readLoop (bound + 1) state [] = some piece := by
          rw [← read]
          exact readLoop_skip ((skip_follower state.flags follower_nil).trans left.symm) _
        have ends := over_embeds embeds ended
          ((comment suffix).trans (skipComment_of_notMem absent))
        exact ⟨ends.1, fun none _ => ends.2 none⟩
    | cons c rest =>
      obtain ⟨action, after, next, asked, applied, read⟩ := readLoop_step_some left read
      have further (suffix : List Char) : state.flags.skip (cs ++ suffix) = c :: (rest ++ suffix) :=
        skip_cons state.flags left suffix
      -- Either the action is read in the same way in every longer text, and what comes after it
      -- decides, or it is a comment that the longer text goes on with.
      rcases decode_alike state.flags c rest action after asked with carried | ⟨rfl, taken⟩
      · beta_reduce at carried
        rcases ih read with resumes | swallows
        · left
          intro rest' around other embeds
          obtain ⟨action', asked', actions⟩ :=
            carried other.flags _ embeds.flags (follower_paren rest')
          have step (more : Nat) : readLoop (more + 1) other (cs ++ ')' :: rest') =
              (other.apply action').bind fun next =>
                readLoop more next (after ++ ')' :: rest') := by
            rw [readLoop_step (embeds.skip ▸ further _), asked', Option.bind_some]
          obtain ⟨succeeds, keeps⟩ := apply_embeds embeds actions applied
          cases applied' : other.apply action' with
          | none =>
            refine .inr ⟨fun same => ?_, fun more => ?_⟩
            · obtain ⟨next', goes, _⟩ := succeeds same
              exact nomatch applied'.symm.trans goes
            · cases more with
              | zero => rfl
              | succ more => rw [step, applied', Option.bind_none]
          | some next' =>
            simp only [applied', Option.bind_some] at step
            obtain ⟨embeds', groups⟩ := keeps next' applied'
            rcases resumes rest' around next' embeds' with
              ⟨items, last, last', few, ends, opened, finished, groups', same⟩ | ⟨names, stuck⟩
            · refine .inl ⟨items + 1, last, last', Nat.succ_lt_succ few, ends, opened, finished,
                groups.trans groups', fun more => ?_⟩
              rw [Nat.add_right_comm, step, same]
            · refine .inr ⟨fun same => ?_, fun more => ?_⟩
              · obtain ⟨other', goes, kept_names⟩ := succeeds same
                obtain rfl := Option.some.inj (applied'.symm.trans goes)
                exact names kept_names
              · cases more with
                | zero => rfl
                | succ more => rw [step, stuck]
        · exact .inr (swallows_step further applied
            (fun flags' suffix alike follower _ => carried flags' suffix alike follower) swallows)
      · refine .inr (swallows_step further applied
          (fun flags' suffix alike _ absent => taken flags' suffix alike absent)
          fun suffix around other _ _ embeds => ?_)
        have ends := over_embeds embeds read (skip_follower next.flags follower_nil)
        exact ⟨ends.1, fun none _ => ends.2 none⟩

end Reading

end Pattern

end Scrutiny
