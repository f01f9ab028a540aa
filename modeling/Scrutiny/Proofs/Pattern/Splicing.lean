import Mathlib.Data.List.TakeWhile
import Scrutiny.Proofs.Pattern.Casing

/-! # Pattern texts inside longer texts

A pattern text that is read on its own is read in the same way where more text follows, as long as
that begins with a closing parenthesis: no item looks further than that. The exception is a text
that ends in a comment, since the comment then goes on. Whether case is ignored does not change
how a text is divided into items, only which characters the items stand for.
-/

namespace Scrutiny.Pattern

/-- A text that can follow a pattern text: nothing, or a closing parenthesis and anything. -/
def Follower (suffix : List Char) : Prop :=
  ∀ c, suffix.head? = some c → c = ')'

theorem follower_nil : Follower [] :=
  fun _ none => nomatch none

theorem follower_paren (rest : List Char) : Follower (')' :: rest) :=
  fun _ first => (Option.some.inj first).symm

/-- What follows is nothing, or begins with a closing parenthesis. -/
theorem Follower.cases {suffix : List Char} (follower : Follower suffix) :
    suffix = [] ∨ ∃ rest, suffix = ')' :: rest := by
  cases suffix with
  | nil => exact .inl rfl
  | cons c rest =>
    obtain rfl : c = ')' := follower c rfl
    exact .inr ⟨rest, rfl⟩

section Blanks

/-- What is left after blanks and comments: the same if more follows, or else more is skipped, from
where nothing is open or from inside a comment. -/
theorem skipBlank_append (cs : List Char) :
    (∃ c rest, skipBlank cs = c :: rest ∧
      ∀ suffix, skipBlank (cs ++ suffix) = c :: (rest ++ suffix)) ∨
      skipBlank cs = [] ∧ ((∀ suffix, skipBlank (cs ++ suffix) = skipBlank suffix) ∨
        ∀ suffix, skipBlank (cs ++ suffix) = skipComment suffix) := by
  suffices both : _ ∧ ((∃ c rest, skipComment cs = c :: rest ∧
        ∀ suffix, skipComment (cs ++ suffix) = c :: (rest ++ suffix)) ∨
      skipComment cs = [] ∧ ((∀ suffix, skipComment (cs ++ suffix) = skipBlank suffix) ∨
        ∀ suffix, skipComment (cs ++ suffix) = skipComment suffix)) from both.1
  induction cs with
  | nil => exact ⟨.inr ⟨rfl, .inl fun _ => rfl⟩, .inr ⟨rfl, .inr fun _ => rfl⟩⟩
  | cons c cs ih =>
    constructor
    · by_cases white : Text.isWhiteSpace c = true
      · simp only [skipBlank, List.cons_append, white, ↓reduceIte]
        exact ih.1
      · by_cases hash : c = '#'
        · simp only [skipBlank, List.cons_append, if_neg white, if_pos hash]
          exact ih.2
        · simp only [skipBlank, List.cons_append, white, hash, ↓reduceIte]
          exact .inl ⟨c, cs, rfl, fun _ => rfl⟩
    · by_cases newline : c = '\n'
      · simp only [skipComment, List.cons_append, newline, ↓reduceIte]
        exact ih.1
      · simp only [skipComment, List.cons_append, newline, ↓reduceIte]
        exact ih.2

/-- Where something is left after comments and white space, it is left whatever follows. -/
theorem skip_cons (flags : Flags) {cs : List Char} {c : Char} {rest : List Char}
    (left : flags.skip cs = c :: rest) (suffix : List Char) :
    flags.skip (cs ++ suffix) = c :: (rest ++ suffix) := by
  unfold Flags.skip at left ⊢
  by_cases spaced : flags.spaced = true
  · rw [if_pos spaced] at left ⊢
    rcases skipBlank_append cs with ⟨d, others, same, further⟩ | ⟨none, _⟩
    · obtain ⟨rfl, rfl⟩ := List.cons.inj (same.symm.trans left)
      exact further suffix
    · exact nomatch none.symm.trans left
  · rw [if_neg spaced] at left ⊢
    rw [left, List.cons_append]

theorem skip_follower (flags : Flags) {suffix : List Char} (follower : Follower suffix) :
    flags.skip suffix = suffix := by
  rcases follower.cases with rfl | ⟨rest, rfl⟩
  · simp only [Flags.skip, skipBlank, ite_self]
  · have solid : Text.isWhiteSpace ')' = false := by decide +kernel
    simp only [Flags.skip, skipBlank, solid, Bool.false_eq_true, ↓reduceIte, Char.reduceEq,
      ite_self]

/-- A text that only has blanks and comments left is over, unless a comment is still open. -/
theorem skip_nil (flags : Flags) {cs : List Char} (left : flags.skip cs = []) :
    (∀ suffix, Follower suffix → flags.skip (cs ++ suffix) = suffix) ∨
      ∀ suffix, flags.skip (cs ++ suffix) = skipComment suffix := by
  have plain := fun (suffix : List Char) (follower : Follower suffix) =>
    skip_follower flags follower
  unfold Flags.skip at left ⊢ plain
  by_cases spaced : flags.spaced = true
  · simp only [if_pos spaced] at left ⊢ plain
    rcases skipBlank_append cs with ⟨_, _, same, _⟩ | ⟨_, ended | comment⟩
    · exact nomatch left.symm.trans same
    · exact .inl fun suffix follower => (ended suffix).trans (plain suffix follower)
    · exact .inr comment
  · simp only [if_neg spaced] at left ⊢
    exact .inl fun suffix _ => by rw [left, List.nil_append]

/-- Passing over white space and comments leaves an end of the text. -/
theorem skipBlank_suffix (cs : List Char) : skipBlank cs <:+ cs := by
  suffices both : skipBlank cs <:+ cs ∧ skipComment cs <:+ cs from both.1
  induction cs with
  | nil => exact ⟨List.suffix_refl _, List.suffix_refl _⟩
  | cons c cs ih =>
    constructor
    · unfold skipBlank
      split
      · exact ih.1.trans (List.suffix_cons c cs)
      · split
        · exact ih.2.trans (List.suffix_cons c cs)
        · exact List.suffix_refl _
    · unfold skipComment
      split
      · exact ih.1.trans (List.suffix_cons c cs)
      · exact ih.2.trans (List.suffix_cons c cs)

/-- With or without the option, what is left is an end of the text. -/
theorem skip_suffix (flags : Flags) (cs : List Char) : flags.skip cs <:+ cs := by
  unfold Flags.skip
  split
  · exact skipBlank_suffix cs
  · exact List.suffix_refl cs

/-- A comment without a line end takes all of the text. -/
theorem skipComment_of_notMem {suffix : List Char} (absent : '\n' ∉ suffix) :
    skipComment suffix = [] := by
  induction suffix with
  | nil => rfl
  | cons c suffix ih =>
    rw [List.mem_cons, not_or] at absent
    rw [skipComment, if_neg (Ne.symm absent.1), ih absent.2]

/-- A text up to a closing brace is read in the same way whatever follows. -/
theorem untilBrace_append (spaced : Bool) {cs text rest : List Char}
    (found : untilBrace spaced cs = some (text, rest)) (suffix : List Char) :
    untilBrace spaced (cs ++ suffix) = some (text, rest ++ suffix) := by
  suffices both : ∀ text, (untilBrace spaced cs = some (text, rest) →
        untilBrace spaced (cs ++ suffix) = some (text, rest ++ suffix)) ∧
      (untilBraceComment spaced cs = some (text, rest) →
        untilBraceComment spaced (cs ++ suffix) = some (text, rest ++ suffix)) from
    (both text).1 found
  clear found text
  induction cs with
  | nil => exact fun text => ⟨nofun, nofun⟩
  | cons c cs ih =>
    intro text
    constructor
    · by_cases white : (spaced && Text.isWhiteSpace c) = true
      · simp only [untilBrace, List.cons_append, white, ↓reduceIte]
        exact (ih text).1
      · by_cases hash : (spaced && c == '#') = true
        · simp only [untilBrace, List.cons_append, if_neg white, if_pos hash]
          exact (ih text).2
        · by_cases brace : c = '\x7d'
          · simp only [untilBrace, List.cons_append, if_neg white, if_neg hash, if_pos brace,
              Option.some.injEq, Prod.mk.injEq]
            rintro ⟨rfl, rfl⟩
            exact ⟨rfl, rfl⟩
          · simp only [untilBrace, List.cons_append, if_neg white, if_neg hash, if_neg brace,
              Option.map_eq_some_iff, Prod.mk.injEq, Prod.exists]
            rintro ⟨inner, _, found, rfl, rfl⟩
            exact ⟨inner, _, (ih inner).1 found, rfl, rfl⟩
    · by_cases newline : c = '\n'
      · simp only [untilBraceComment, List.cons_append, newline, ↓reduceIte]
        exact (ih text).1
      · simp only [untilBraceComment, List.cons_append, newline, ↓reduceIte]
        exact (ih text).2

end Blanks

/-- What is read from a text is read alike where more text follows, and what is left is followed by
that text. -/
def Carried {α β : Type} (alike : α → β → Prop) (suffix : List Char)
    (alone : Option (α × List Char)) (spliced : Option (β × List Char)) : Prop :=
  ∀ found rest, alone = some (found, rest) →
    ∃ other, spliced = some (other, rest ++ suffix) ∧ alike found other

section Carried

variable {α β : Type} {alike : α → β → Prop} {suffix : List Char}

/-- Where nothing is read, anything may be read with more text. -/
theorem Carried.none {spliced : Option (β × List Char)} : Carried alike suffix none spliced :=
  fun _ _ read => nomatch read

/-- What is read is carried over with the rest, longer by what follows. -/
theorem Carried.some {found : α} {other : β} (same : alike found other) (rest : List Char) :
    Carried alike suffix (some (found, rest)) (some (other, rest ++ suffix)) := by
  intro _ _ read
  obtain ⟨rfl, rfl⟩ := Prod.mk.inj (Option.some.inj read)
  exact ⟨other, rfl, same⟩

/-- A choice is carried over if both of its sides are. -/
theorem Carried.ite {condition : Prop} [Decidable condition]
    {one two : Option (α × List Char)} {first second : Option (β × List Char)}
    (holds : condition → Carried alike suffix one first)
    (fails : ¬ condition → Carried alike suffix two second) :
    Carried alike suffix (if condition then one else two)
      (if condition then first else second) := by
  by_cases decided : condition
  · rw [if_pos decided, if_pos decided]
    exact holds decided
  · rw [if_neg decided, if_neg decided]
    exact fails decided

end Carried

/-- Items that differ at most in the set they stand for. -/
inductive Primitive.Alike (sets : CharSet → CharSet → Prop) : Primitive → Primitive → Prop
  | same (item : Primitive) : Alike sets item item
  | set {left right : CharSet} (both : sets left right) : Alike sets (.set left) (.set right)

/-- Sets of an escape that is read again with case ignored or not. Where classes keep to the basic
range, escapes do not look at case. -/
structure CharSet.Recast (flags : Flags) (ignoreCase : Bool) (left right : CharSet) : Prop where
  same : ignoreCase = flags.ignoreCase ∨ flags.unicode = false → left = right
  folds : (flags.ignoreCase = true → ignoreCase = true) → left.Folds right

section Escapes

variable {flags : Flags} {cs rest : List Char} {found : Primitive}

/-- Digits of a fixed number are read in the same way whatever follows. -/
theorem takeFixed_append (flags : Flags) {count : Nat} {cs text rest : List Char}
    (read : takeFixed flags count cs = some (text, rest)) (suffix : List Char) :
    takeFixed flags count (cs ++ suffix) = some (text, rest ++ suffix) := by
  induction count generalizing cs text with
  | zero =>
    obtain ⟨rfl, rfl⟩ := Prod.mk.inj (Option.some.inj read)
    rfl
  | succ count ih =>
    unfold takeFixed at read ⊢
    split at read
    · exact nomatch read
    · next c after skipped =>
      rw [skip_cons flags skipped]
      simp only [Option.map_eq_some_iff, Prod.mk.injEq, Prod.exists] at read ⊢
      obtain ⟨inner, _, taken, rfl, rfl⟩ := read
      exact ⟨inner, _, ih taken, rfl, rfl⟩

theorem takeFixed_withCase (flags : Flags) (ignoreCase : Bool) :
    takeFixed (flags.withCase ignoreCase) = takeFixed flags := by
  funext count cs
  induction count generalizing cs with
  | zero => rfl
  | succ count ih => simp only [takeFixed, Flags.skip_withCase, ih]

/-- No character has no digits at all. -/
theorem ofHexDigits?_nil : ofHexDigits? [] = none := rfl

/-- An escape by digits is read in the same way whatever follows. -/
theorem hexEscape_append {digits : Nat} (read : hexEscape flags digits cs = some (found, rest))
    (ignoreCase : Bool) (suffix : List Char) :
    hexEscape (flags.withCase ignoreCase) digits (cs ++ suffix) = some (found, rest ++ suffix) := by
  unfold hexEscape at read ⊢
  simp only [Flags.skip_withCase, Flags.spaced_withCase, takeFixed_withCase]
  cases skipped : flags.skip cs with
  | nil =>
    simp only [skipped] at read
    cases digits with
    | zero =>
      simp only [takeFixed, Option.bind_eq_bind, Option.bind_some, ofHexDigits?_nil,
        Option.bind_none, reduceCtorEq] at read
    | succ count =>
      have ended : flags.skip [] = [] := skip_follower flags follower_nil
      simp only [takeFixed, ended, Option.bind_eq_bind, Option.bind_none, reduceCtorEq] at read
  | cons c after =>
    rw [skip_cons flags skipped]
    rw [skipped] at read
    by_cases brace : c = '\x7b'
    · subst brace
      simp only [Option.bind_eq_bind, Option.bind_eq_some_iff, Prod.exists] at read ⊢
      obtain ⟨text, left, inside, d, valued, result⟩ := read
      obtain ⟨rfl, rfl⟩ := Prod.mk.inj (Option.some.inj result)
      exact ⟨text, _, untilBrace_append _ inside suffix, d, valued, rfl⟩
    · split at read
      · next same => exact absurd (List.cons.inj same).1 brace
      split
      · next same => exact absurd (List.cons.inj same).1 brace
      simp only [Option.bind_eq_bind, Option.bind_eq_some_iff, Prod.exists] at read ⊢
      obtain ⟨text, left, inside, d, valued, result⟩ := read
      obtain ⟨rfl, rfl⟩ := Prod.mk.inj (Option.some.inj result)
      exact ⟨text, _, takeFixed_append flags inside suffix, d, valued, rfl⟩

/-- The name of a class after its letter. -/
def className (flags : Flags) (cs : List Char) : Option (List Char × List Char) :=
  match flags.skip cs with
  | [] => none
  | c :: rest =>
    if c = '\x7b' then untilBrace flags.spaced rest
    else if c = '\\' then none
    else some ([c], rest)

/-- A named class is its name, looked up, closed under case and negated. -/
theorem namedClass_eq (flags : Flags) (negated : Bool) (cs : List Char) :
    namedClass flags negated cs = (className flags cs).bind fun named =>
      (classNamed named.1).bind fun (reversed, set) =>
        if flags.unicode then
          some (.set (flags.foldAndNegate (negated != reversed) set), named.2)
        else none := by
  unfold namedClass className
  cases flags.skip cs with
  | nil => rfl
  | cons c rest =>
    by_cases brace : c = '\x7b'
    · subst brace
      rfl
    · by_cases backslash : c = '\\'
      · subst backslash
        rfl
      · simp [brace, backslash]

/-- The name of a class is read in the same way whatever follows. -/
theorem className_append (flags : Flags) {cs text rest : List Char}
    (read : className flags cs = some (text, rest)) (suffix : List Char) :
    className flags (cs ++ suffix) = some (text, rest ++ suffix) := by
  unfold className at read ⊢
  cases skipped : flags.skip cs with
  | nil =>
    rw [skipped] at read
    exact nomatch read
  | cons c after =>
    simp only [skipped, skip_cons flags skipped suffix] at read ⊢
    by_cases brace : c = '\x7b'
    · rw [if_pos brace] at read ⊢
      exact untilBrace_append _ read suffix
    · rw [if_neg brace] at read ⊢
      by_cases backslash : c = '\\'
      · rw [if_pos backslash] at read
        exact nomatch read
      · rw [if_neg backslash] at read ⊢
        obtain ⟨rfl, rfl⟩ := Prod.mk.inj (Option.some.inj read)
        rfl

theorem CharSet.recast_foldAndNegate (flags : Flags) (ignoreCase : Bool)
    (unicode : flags.unicode = true) (negated : Bool) (set : CharSet) :
    CharSet.Recast flags ignoreCase (flags.foldAndNegate negated set)
      ((flags.withCase ignoreCase).foldAndNegate negated set) where
  same kept := by
    rcases kept with rfl | basic
    · rfl
    · exact nomatch unicode.symm.trans basic
  folds grows := (CharSet.Folds.refl set).foldAndNegate negated grows

/-- A named class is read whatever follows, as the same class recast. -/
theorem namedClass_append {negated : Bool} (read : namedClass flags negated cs = some (found, rest))
    (ignoreCase : Bool) (suffix : List Char) :
    ∃ other, namedClass (flags.withCase ignoreCase) negated (cs ++ suffix) =
        some (other, rest ++ suffix) ∧
      found.Alike (CharSet.Recast flags ignoreCase) other := by
  rw [namedClass_eq] at read
  simp only [Option.bind_eq_some_iff, Prod.exists] at read
  obtain ⟨name, left, text, reversed, set, named, result⟩ := read
  split at result
  · next unicode =>
    obtain ⟨rfl, rfl⟩ := Prod.mk.inj (Option.some.inj result)
    refine ⟨.set ((flags.withCase ignoreCase).foldAndNegate (negated != reversed) set), ?_,
      .set (CharSet.recast_foldAndNegate flags ignoreCase unicode (negated != reversed) set)⟩
    have again : className (flags.withCase ignoreCase) (cs ++ suffix) =
        some (name, left ++ suffix) :=
      className_append flags text suffix
    simp only [namedClass_eq, again, named, Option.bind_some, Flags.unicode_withCase, unicode,
      ↓reduceIte]
  · exact nomatch result

/-- A word boundary is read in the same way whatever follows. -/
theorem boundary_append {suffix : List Char} (follower : Follower suffix)
    (read : boundary flags cs = some (found, rest)) (ignoreCase : Bool) :
    boundary (flags.withCase ignoreCase) (cs ++ suffix) = some (found, rest ++ suffix) := by
  have plain (notBrace : ∀ after, cs ++ suffix ≠ '\x7b' :: after) :
      boundary (flags.withCase ignoreCase) (cs ++ suffix) =
        some (.assertion (.wordBoundary flags.unicode), cs ++ suffix) := by
    unfold boundary
    split
    · next after same => exact absurd same (notBrace after)
    · rfl
  cases cs with
  | nil =>
    obtain ⟨rfl, rfl⟩ := Prod.mk.inj (Option.some.inj read)
    refine plain fun after same => ?_
    exact absurd (follower '\x7b' (congrArg List.head? same)) (by decide)
  | cons c after =>
    by_cases brace : c = '\x7b'
    · subst brace
      unfold boundary at read ⊢
      simp only [List.cons_append, Flags.skip_withCase] at read ⊢
      cases skipped : flags.skip after with
      | nil =>
        simp only [skipped] at read
        exact nomatch read
      | cons d others =>
        simp only [skipped, skip_cons flags skipped suffix] at read ⊢
        split at read
        · next named =>
          simp only [named, ↓reduceIte, Option.bind_eq_bind, Option.bind_eq_some_iff,
            Prod.exists] at read ⊢
          obtain ⟨name, left, text, condition, known, result⟩ := read
          obtain ⟨rfl, rfl⟩ := Prod.mk.inj (Option.some.inj result)
          exact ⟨name, _, untilBrace_append _ text suffix, condition, known, rfl⟩
        · next unnamed =>
          obtain ⟨rfl, rfl⟩ := Prod.mk.inj (Option.some.inj read)
          rw [if_neg unnamed]
          rfl
    · have notBrace (after' : List Char) : c :: after ++ suffix ≠ '\x7b' :: after' := fun same =>
        brace (List.cons.inj same).1
      rw [plain notBrace]
      unfold boundary at read
      split at read
      · next same => exact absurd (List.cons.inj same).1 brace
      · obtain ⟨rfl, rfl⟩ := Prod.mk.inj (Option.some.inj read)
        rfl

theorem letterClass?_withCase (flags : Flags) (ignoreCase : Bool) (letter : Char) :
    letterClass? (flags.withCase ignoreCase) letter = letterClass? flags letter := rfl

/-- An escape is read alike where more text follows. -/
theorem escape_carried (flags : Flags) (ignoreCase : Bool) {suffix : List Char}
    (follower : Follower suffix) (cs : List Char) :
    Carried (Primitive.Alike (CharSet.Recast flags ignoreCase)) suffix (escape flags cs)
      (escape (flags.withCase ignoreCase) (cs ++ suffix)) := by
  cases cs with
  | nil => exact .none
  | cons c after =>
    have hex (digits : Nat) : Carried (Primitive.Alike (CharSet.Recast flags ignoreCase)) suffix
        (hexEscape flags digits after)
        (hexEscape (flags.withCase ignoreCase) digits (after ++ suffix)) :=
      fun found _ read => ⟨found, hexEscape_append read ignoreCase suffix, .same found⟩
    have named (negated : Bool) : Carried (Primitive.Alike (CharSet.Recast flags ignoreCase)) suffix
        (namedClass flags negated after)
        (namedClass (flags.withCase ignoreCase) negated (after ++ suffix)) :=
      fun _ _ read => namedClass_append read ignoreCase suffix
    have item (found : Primitive) :
        Carried (Primitive.Alike (CharSet.Recast flags ignoreCase)) suffix
          (some (found, after)) (some (found, after ++ suffix)) :=
      .some (.same found) after
    unfold escape
    refine .ite (fun _ => .none) fun _ => .ite (fun _ => hex 2) fun _ => .ite (fun _ => hex 4)
      fun _ => .ite (fun _ => hex 8) fun _ => .ite (fun _ => named false)
      fun _ => .ite (fun _ => named true) fun _ => .ite (fun _ => ?_)
      fun _ => .ite (fun _ => item _) fun _ => ?_
    · rw [letterClass?_withCase]
      cases letterClass? flags c with
      | none => exact .none
      | some set => exact item (.set set)
    · split
      -- Only a boundary may go on in braces, and only the last case is no escape.
      case h_9 =>
        exact fun found _ read => ⟨found, boundary_append follower read ignoreCase, .same found⟩
      case h_13 => exact .none
      all_goals exact item _

end Escapes

section Names

variable {name : List Char} {stop : Char}

/-- Up to a stop that a name does not hold, a text that begins with it is the name. -/
theorem takeWhile_stop (absent : stop ∉ name) (after : List Char) :
    (name ++ stop :: after).takeWhile (· ≠ stop) = name := by
  rw [List.takeWhile_append_of_pos, List.takeWhile_cons_of_neg, List.append_nil]
  · simp only [ne_eq, not_true_eq_false, decide_false, Bool.false_eq_true, not_false_eq_true]
  · exact fun c member => decide_eq_true fun same => absent (same ▸ member)

theorem takeWhile_all (absent : stop ∉ name) : name.takeWhile (· ≠ stop) = name := by
  rw [List.takeWhile_eq_self_iff]
  exact fun c member => decide_eq_true fun same => absent (same ▸ member)

end Names

end Scrutiny.Pattern
