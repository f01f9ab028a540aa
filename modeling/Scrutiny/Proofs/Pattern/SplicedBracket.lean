import Mathlib.Data.List.Forall2
import Scrutiny.Proofs.Pattern.Splicing

/-! # Bracketed classes inside longer texts

A bracketed class that is read on its own is read alike where more text follows, with case ignored
or not. Where classes keep to the basic range, ignoring case changes nothing outside of it, so the
check that they do has the same outcome.
-/

namespace Scrutiny.Pattern

/-- Sets that are equal under the same options, with case ignored in the second where the options
say so, and with the same members outside of the basic range where classes keep to that. -/
structure CharSet.Agrees (flags : Flags) (ignoreCase : Bool) (left right : CharSet) : Prop where
  same : ignoreCase = flags.ignoreCase → left = right
  folds : (flags.ignoreCase = true → ignoreCase = true) → left.Folds right
  high : flags.unicode = false → ∀ c : Char, 128 ≤ c.toNat → left.has c = right.has c

/-- Sets that agree and are nested equally deep. -/
structure NestedSet.Agrees (flags : Flags) (ignoreCase : Bool) (left right : NestedSet) : Prop where
  set : left.set.Agrees flags ignoreCase right.set
  depth : left.depth = right.depth

/-- Operands that agree, under the same operation. -/
structure OperandAgrees (flags : Flags) (ignoreCase : Bool)
    (left right : SetOperation × NestedSet) : Prop where
  operation : left.1 = right.1
  operand : left.2.Agrees flags ignoreCase right.2

/-- Open brackets with operands and lists that agree. -/
structure OpenBracket.Agrees (flags : Flags) (ignoreCase : Bool) (left right : OpenBracket) :
    Prop where
  negated : left.negated = right.negated
  outer : List.Forall₂ (NestedSet.Agrees flags ignoreCase) left.outer right.outer
  operand : Option.Rel (OperandAgrees flags ignoreCase) left.operand right.operand

/-- What has been read of two classes agrees. -/
structure BracketState.Agrees (flags : Flags) (ignoreCase : Bool) (left right : BracketState) :
    Prop where
  opened : List.Forall₂ (OpenBracket.Agrees flags ignoreCase) left.opened right.opened
  items : List.Forall₂ (NestedSet.Agrees flags ignoreCase) left.items right.items

section Sets

variable {flags : Flags} {ignoreCase : Bool}

namespace CharSet.Agrees

/-- A class agrees with itself: ignoring case changes a class of the basic range there only. -/
theorem refl (set : CharSet) : set.Agrees flags ignoreCase set where
  same _ := rfl
  folds _ := .refl set
  high _ _ _ := rfl

variable {left right left' right' : CharSet}

/-- In the basic range, closing a class under case changes nothing outside of it. -/
theorem fold_high {set : CharSet} (basic : flags.unicode = false) {c : Char}
    (high : 128 ≤ c.toNat) : (flags.fold set).has c = set.has c := by
  unfold Flags.fold
  by_cases ignored : flags.ignoreCase = true
  · simp only [ignored, basic, ↓reduceIte, Bool.false_eq_true, has, basicVariants_high high,
      List.any_cons, List.any_nil, Bool.or_false, Bool.or_self]
  · rw [if_neg ignored]

/-- Classes that agree do so when each is closed under the case of its reading. -/
theorem fold (agree : left.Agrees flags ignoreCase right) :
    (flags.fold left).Agrees flags ignoreCase ((flags.withCase ignoreCase).fold right) where
  same unchanged := by
    rw [agree.same unchanged, unchanged]
    rfl
  folds grows := (agree.folds grows).fold grows
  high basic c high := by
    have basic' : (flags.withCase ignoreCase).unicode = false := basic
    rw [fold_high basic high, fold_high basic' high]
    exact agree.high basic c high

/-- The characters outside of two classes that agree make classes that agree. -/
theorem complement (agree : left.Agrees flags ignoreCase right) :
    (CharSet.complement left).Agrees flags ignoreCase (.complement right) where
  same unchanged := congrArg _ (agree.same unchanged)
  folds grows := .complement (agree.folds grows)
  high basic c high := congrArg (! ·) (agree.high basic c high)

/-- Classes that agree do so when they are closed under case and negated. -/
theorem foldAndNegate (negated : Bool) (agree : left.Agrees flags ignoreCase right) :
    (flags.foldAndNegate negated left).Agrees flags ignoreCase
      ((flags.withCase ignoreCase).foldAndNegate negated right) := by
  unfold Flags.foldAndNegate
  cases negated with
  | true => exact agree.fold.complement
  | false => exact agree.fold

/-- Operations on classes that agree give classes that agree. -/
theorem apply (operation : SetOperation) (one : left.Agrees flags ignoreCase right)
    (two : left'.Agrees flags ignoreCase right') :
    (operation.apply left left').Agrees flags ignoreCase (operation.apply right right') where
  same unchanged := by rw [one.same unchanged, two.same unchanged]
  folds grows := .apply operation (one.folds grows) (two.folds grows)
  high basic c high := by
    cases operation <;>
      simp only [SetOperation.apply, has, one.high basic c high, two.high basic c high]

theorem union (one : left.Agrees flags ignoreCase right)
    (two : left'.Agrees flags ignoreCase right') :
    (CharSet.union left left').Agrees flags ignoreCase (.union right right') where
  same unchanged := by rw [one.same unchanged, two.same unchanged]
  folds grows := .union (one.folds grows) (two.folds grows)
  high basic c high := by simp only [has, one.high basic c high, two.high basic c high]

theorem unionAll {sets others : List CharSet}
    (agree : List.Forall₂ (CharSet.Agrees flags ignoreCase) sets others) :
    (CharSet.unionAll sets).Agrees flags ignoreCase (CharSet.unionAll others) := by
  cases agree with
  | nil => exact .refl .empty
  | cons first rest => exact List.rel_foldl (fun _ _ one _ _ two => one.union two) first rest

end CharSet.Agrees

theorem NestedSet.Agrees.refl (item : NestedSet) : item.Agrees flags ignoreCase item :=
  ⟨.refl item.set, rfl⟩

/-- Items of brackets that agree one by one agree when they are put together. -/
theorem unionItems_agrees {items others : List NestedSet}
    (agree : List.Forall₂ (NestedSet.Agrees flags ignoreCase) items others) :
    (unionItems items).Agrees flags ignoreCase (unionItems others) := by
  cases agree with
  | nil => exact .refl ⟨.empty, 0⟩
  | cons first rest =>
    cases rest with
    | nil => exact first
    | cons second rest =>
      have all := List.Forall₂.cons first (List.Forall₂.cons second rest)
      refine ⟨.unionAll ?_, ?_⟩
      · rw [List.forall₂_map_left_iff, List.forall₂_map_right_iff]
        exact (List.forall₂_reverse_iff.mpr all).imp fun _ _ agree => agree.set
      · refine congrArg (fun depths => List.foldl max 0 depths + 1) ?_
        rw [← List.forall₂_eq_eq_eq, List.forall₂_map_left_iff, List.forall₂_map_right_iff]
        exact all.imp fun _ _ agree => agree.depth

/-- An operation that waits for its right side gives classes that agree. -/
theorem combine_agrees {operand operand' : Option (SetOperation × NestedSet)}
    {right right' : NestedSet}
    (operands : Option.Rel (OperandAgrees flags ignoreCase) operand operand')
    (agree : right.Agrees flags ignoreCase right') :
    (combine flags operand right).Agrees flags ignoreCase
      (combine (flags.withCase ignoreCase) operand' right') := by
  cases operands with
  | none => exact agree
  | @some one other both =>
    obtain ⟨operation, left⟩ := one
    obtain ⟨operation', left'⟩ := other
    obtain ⟨rfl, agree'⟩ := both
    exact ⟨agree'.set.fold.apply operation agree.set.fold,
      congrArg₂ (fun one two => max one two + 1) agree'.depth agree.depth⟩

/-- Whether a class keeps to the basic range does not depend on case, which changes nothing outside.
-/
theorem staysBasic_eq {left right : CharSet} (agree : left.Agrees flags ignoreCase right) :
    staysBasic (flags.withCase ignoreCase) right = staysBasic flags left := by
  unfold staysBasic
  rw [Flags.unicode_withCase]
  cases basic : flags.unicode with
  | true => rfl
  | false =>
    rw [Bool.false_or, Bool.false_or]
    rw [Bool.eq_iff_iff, List.all_eq_true, List.all_eq_true]
    refine forall₂_congr fun code member => ?_
    have valid : (code + 128).isValidChar := by
      have small := List.mem_range.mp member
      exact .inl (by omega)
    have high : 128 ≤ (Char.ofNat (code + 128)).toNat := by
      unfold Char.ofNat
      rw [dif_pos valid]
      exact Nat.le_add_left 128 code
    rw [agree.high basic _ high]

/-- Brackets that agree are closed to classes that agree, or neither can be closed. -/
theorem closeBracket_agrees {bracket other : OpenBracket} {items others : List NestedSet}
    (brackets : bracket.Agrees flags ignoreCase other)
    (lists : List.Forall₂ (NestedSet.Agrees flags ignoreCase) items others) :
    Option.Rel (NestedSet.Agrees flags ignoreCase) (closeBracket flags bracket items)
      (closeBracket (flags.withCase ignoreCase) other others) := by
  have inner := combine_agrees brackets.operand (unionItems_agrees lists)
  have set := inner.set.foldAndNegate bracket.negated
  simp only [closeBracket]
  rw [← brackets.negated, staysBasic_eq set]
  split
  · exact .some ⟨set, congrArg (· + 1) inner.depth⟩
  · exact .none

end Sets

section Items

variable {flags : Flags} {ignoreCase : Bool}

/-- No class has a name with a parenthesis in it. -/
theorem basicClass?_paren {name : List Char} (member : ')' ∈ name) :
    basicClass? (String.ofList name) = none := by
  have absent : String.ofList name ∉ ["alnum", "alpha", "ascii", "blank", "cntrl", "digit", "graph",
      "lower", "print", "punct", "space", "upper", "word", "xdigit"] := by
    intro among
    have lettered : ∀ known ∈ ["alnum", "alpha", "ascii", "blank", "cntrl", "digit", "graph",
      "lower", "print", "punct", "space", "upper", "word", "xdigit"], ')' ∉ known.toList := by
      decide
    exact lettered _ among (by rwa [String.toList_ofList])
  simp only [List.mem_cons, List.not_mem_nil, or_false, not_or] at absent
  unfold basicClass?
  split <;> simp_all only [not_true_eq_false, false_and, and_false]

/-- The name of a class of the basic range up to its end. -/
def namedBasicClass (flags : Flags) (negated : Bool) (cs : List Char) :
    Option (CharSet × List Char) :=
  let name := cs.takeWhile (· ≠ ':')
  match cs.drop name.length with
  | ':' :: ']' :: rest =>
    (basicClass? (String.ofList name)).map fun test =>
      (flags.foldAndNegate negated (.named test), rest)
  | _ => none

/-- A class between colons that is not negated is read by its name. -/
theorem basicClass_plain (flags : Flags) {cs : List Char} (plain : cs.head? ≠ some '^') :
    basicClass flags (':' :: cs) = namedBasicClass flags false cs := by
  cases cs with
  | nil => rfl
  | cons c rest =>
    have other : c ≠ '^' := fun same => plain (congrArg some same)
    unfold basicClass
    simp only [List.cons.injEq, other, false_and, imp_self, implies_true]
    rfl

/-- What does not begin with a colon is no class between colons. -/
theorem basicClass_other (flags : Flags) {cs : List Char} (other : cs.head? ≠ some ':') :
    basicClass flags cs = none := by
  unfold basicClass
  split
  · exact absurd rfl other
  · rfl

/-- The name of a class ends at the first colon, and a bracket must follow. -/
theorem namedBasicClass_stop (flags : Flags) (negated : Bool) {name : List Char}
    (absent : ':' ∉ name) (after : List Char) :
    namedBasicClass flags negated (name ++ ':' :: after) =
      match after with
      | ']' :: rest =>
        (basicClass? (String.ofList name)).map fun test =>
          (flags.foldAndNegate negated (.named test), rest)
      | _ => none := by
  unfold namedBasicClass
  simp only [takeWhile_stop absent, List.drop_left]
  cases after with
  | nil => rfl
  | cons c rest =>
    by_cases close : c = ']'
    · subst close
      rfl
    · simp [close]

theorem namedBasicClass_all (flags : Flags) (negated : Bool) {name : List Char}
    (absent : ':' ∉ name) : namedBasicClass flags negated name = none := by
  unfold namedBasicClass
  simp only [takeWhile_all absent, List.drop_length]

/-- A name that goes on past the end of a text has a parenthesis in it. -/
theorem namedBasicClass_follower (flags : Flags) (negated : Bool) {suffix name : List Char}
    (follower : Follower suffix) (absent : ':' ∉ name) :
    namedBasicClass flags negated (name ++ suffix) = none := by
  rcases follower.cases with rfl | ⟨others, rfl⟩
  · rw [List.append_nil]
    exact namedBasicClass_all flags negated absent
  · by_cases colon : ':' ∈ others
    · obtain ⟨more, after, rfl, without⟩ := List.eq_append_cons_of_mem colon
      have whole : name ++ ')' :: (more ++ ':' :: after) =
          (name ++ ')' :: more) ++ ':' :: after := by
        simp only [List.append_assoc, List.cons_append]
      have absent' : ':' ∉ name ++ ')' :: more := by
        simp only [List.mem_append, List.mem_cons, Char.reduceEq, false_or, not_or]
        exact ⟨absent, without⟩
      have paren : ')' ∈ name ++ ')' :: more := List.mem_append_right _ List.mem_cons_self
      rw [whole, namedBasicClass_stop flags negated absent', basicClass?_paren paren]
      split <;> rfl
    · refine namedBasicClass_all flags negated ?_
      simp only [List.mem_append, List.mem_cons, Char.reduceEq, false_or, not_or]
      exact ⟨absent, colon⟩

/-- Whether a class of the basic range stands in brackets can be told from the text alone. -/
theorem namedBasicClass_rel (flags : Flags) (ignoreCase negated : Bool) {suffix : List Char}
    (follower : Follower suffix) (cs : List Char) :
    Option.Rel (fun one other => one.1.Agrees flags ignoreCase other.1 ∧ other.2 = one.2 ++ suffix)
      (namedBasicClass flags negated cs)
      (namedBasicClass (flags.withCase ignoreCase) negated (cs ++ suffix)) := by
  by_cases colon : ':' ∈ cs
  · obtain ⟨name, after, rfl, absent⟩ := List.eq_append_cons_of_mem colon
    rw [List.append_assoc, List.cons_append, namedBasicClass_stop flags negated absent,
      namedBasicClass_stop _ negated absent]
    cases after with
    | nil =>
      rcases follower.cases with rfl | ⟨others, rfl⟩
      · exact .none
      · exact .none
    | cons c rest =>
      by_cases close : c = ']'
      · subst close
        simp only [List.cons_append]
        cases basicClass? (String.ofList name) with
        | none => exact .none
        | some test => exact .some ⟨.foldAndNegate negated (.refl (.named test)), rfl⟩
      · simp only [List.cons_append]
        split
        · next same => exact absurd (List.cons.inj same).1 close
        split
        · next same => exact absurd (List.cons.inj same).1 close
        exact .none
  · rw [namedBasicClass_all flags negated colon,
      namedBasicClass_follower _ negated follower colon]
    exact .none

/-- A class between colons is read alike whatever follows: the colon that would end it is not in
what follows. -/
theorem basicClass_rel (flags : Flags) (ignoreCase : Bool) {suffix : List Char}
    (follower : Follower suffix) (cs : List Char) :
    Option.Rel (fun one other => one.1.Agrees flags ignoreCase other.1 ∧ other.2 = one.2 ++ suffix)
      (basicClass flags cs) (basicClass (flags.withCase ignoreCase) (cs ++ suffix)) := by
  have first (c : Char) (notParen : c ≠ ')') (cs : List Char) (other : cs.head? ≠ some c) :
      (cs ++ suffix).head? ≠ some c := by
    cases cs with
    | nil => exact fun same => notParen (follower c same)
    | cons d rest => exact other
  by_cases colon : cs.head? = some ':'
  · obtain ⟨rest, rfl⟩ := List.head?_eq_some_iff.mp colon
    by_cases caret : rest.head? = some '^'
    · obtain ⟨after, rfl⟩ := List.head?_eq_some_iff.mp caret
      exact namedBasicClass_rel flags ignoreCase true follower after
    · rw [List.cons_append, basicClass_plain flags caret,
        basicClass_plain _ (first '^' (by decide) rest caret)]
      exact namedBasicClass_rel flags ignoreCase false follower rest
  · rw [basicClass_other flags colon, basicClass_other _ (first ':' (by decide) cs colon)]
    exact .none

/-- Hyphens at the start of a bracket are counted alike where something is left after them. -/
theorem leadingHyphens_append {bound more count : Nat} {cs rest : List Char}
    (read : leadingHyphens flags bound cs = (count, rest)) (left : rest ≠ [])
    (enough : cs.length ≤ bound) (many : bound ≤ more) (suffix : List Char) :
    leadingHyphens flags more (cs ++ suffix) = (count, rest ++ suffix) := by
  induction bound generalizing cs count more with
  | zero =>
    obtain ⟨_, rfl⟩ := Prod.mk.inj read
    exact absurd (List.eq_nil_of_length_eq_zero (Nat.le_zero.mp enough)) left
  | succ bound ih =>
    obtain ⟨more, rfl⟩ := Nat.exists_eq_add_of_le' (Nat.le_of_add_left_le many)
    unfold leadingHyphens at read ⊢
    cases skipped : flags.skip cs with
    | nil =>
      simp only [skipped] at read
      exact absurd (Prod.mk.inj read).2.symm left
    | cons c after =>
      have shorter : after.length ≤ bound := by
        have shorter := (skip_suffix flags cs).length_le
        rw [skipped, List.length_cons] at shorter
        omega
      rw [skip_cons flags skipped]
      rw [skipped] at read
      by_cases hyphen : c = '-'
      · subst hyphen
        simp only at read ⊢
        obtain ⟨inner, found⟩ : ∃ inner, leadingHyphens flags bound after = inner := ⟨_, rfl⟩
        rw [found] at read
        obtain ⟨rfl, rfl⟩ := Prod.mk.inj read
        rw [ih found shorter (by omega)]
      · simp only [List.cons.injEq, hyphen, false_and, imp_self, implies_true] at read ⊢
        obtain ⟨rfl, rfl⟩ := Prod.mk.inj read
        rfl

/-- Hyphens at the start do not depend on case. -/
theorem leadingHyphens_withCase (flags : Flags) (ignoreCase : Bool) :
    leadingHyphens (flags.withCase ignoreCase) = leadingHyphens flags := by
  funext bound cs
  induction bound generalizing cs with
  | zero => rfl
  | succ bound ih => simp only [leadingHyphens, Flags.skip_withCase, ih]

/-- What stands first in a bracket does not depend on case. -/
theorem openItems_withCase (flags : Flags) (ignoreCase : Bool) :
    openItems (flags.withCase ignoreCase) = openItems flags := by
  funext cs
  simp only [openItems, Flags.skip_withCase, leadingHyphens_withCase]

theorem openBracket_withCase (flags : Flags) (ignoreCase : Bool) :
    openBracket (flags.withCase ignoreCase) = openBracket flags := by
  funext cs
  simp only [openBracket, Flags.skip_withCase, openItems_withCase]

/-- A circumflex at the start negates the bracket, and is passed over. -/
theorem openBracket_negated {cs rest : List Char} (skipped : flags.skip cs = '^' :: rest) :
    openBracket flags cs = (true, openItems flags rest) := by
  simp only [openBracket, skipped]

theorem openBracket_plain {cs : List Char} (plain : (flags.skip cs).head? ≠ some '^') :
    openBracket flags cs = (false, openItems flags (flags.skip cs)) := by
  unfold openBracket
  split
  · next rest skipped =>
    rw [skipped] at plain
    exact absurd rfl plain
  · rfl

/-- What stands first in a bracket is read alike whatever follows, where something is left after it.
-/
theorem openItems_append {cs rest : List Char} {items : List NestedSet}
    (read : openItems flags cs = (items, rest)) (left : rest ≠ []) (suffix : List Char) :
    openItems flags (cs ++ suffix) = (items, rest ++ suffix) := by
  obtain ⟨count, after, hyphens⟩ : ∃ count after,
      leadingHyphens flags cs.length cs = (count, after) := ⟨_, _, rfl⟩
  unfold openItems at read ⊢
  simp only [hyphens] at read
  have empty : flags.skip [] = [] := skip_follower flags follower_nil
  cases skipped : flags.skip after with
  | nil =>
    simp only [skipped] at read
    exact absurd (Prod.mk.inj read).2.symm left
  | cons c others =>
    have more : after ≠ [] := by
      rintro rfl
      exact nomatch empty.symm.trans skipped
    simp only [leadingHyphens_append hyphens more (Nat.le_refl _)
      (List.length_append ▸ Nat.le_add_right cs.length suffix.length), skip_cons flags skipped]
    rw [skipped] at read
    by_cases close : c = ']'
    · subst close
      simp only at read ⊢
      split at read
      · next none =>
        obtain ⟨rfl, rfl⟩ := Prod.mk.inj read
        rw [if_pos none]
      · next some =>
        obtain ⟨rfl, rfl⟩ := Prod.mk.inj read
        rw [if_neg some, List.cons_append]
    · simp only [List.cons.injEq, close, false_and, imp_self, implies_true] at read ⊢
      obtain ⟨rfl, rfl⟩ := Prod.mk.inj read
      rfl

theorem openItems_nil : openItems flags [] = ([], []) := by
  have empty : flags.skip [] = [] := skip_follower flags follower_nil
  simp only [openItems, List.length_nil, leadingHyphens, empty, List.replicate_zero]

/-- A bracket is opened alike whatever follows, where something is left after the opening. -/
theorem openBracket_append {negated : Bool} {cs rest : List Char} {items : List NestedSet}
    (read : openBracket flags cs = (negated, items, rest)) (left : rest ≠ []) (suffix : List Char) :
    openBracket flags (cs ++ suffix) = (negated, items, rest ++ suffix) := by
  cases skipped : flags.skip cs with
  | nil =>
    rw [openBracket_plain (by rw [skipped]; exact nofun), skipped, openItems_nil] at read
    exact absurd (Prod.mk.inj (Prod.mk.inj read).2).2.symm left
  | cons c after =>
    have further := skip_cons flags skipped suffix
    by_cases caret : c = '^'
    · subst caret
      rw [openBracket_negated skipped] at read
      obtain ⟨rfl, items⟩ := Prod.mk.inj read
      rw [openBracket_negated further, openItems_append items left suffix]
    · have plain (rest : List Char) : (c :: rest).head? ≠ some '^' :=
        fun same => caret (Option.some.inj same)
      rw [openBracket_plain (skipped ▸ plain after), skipped] at read
      obtain ⟨rfl, items⟩ := Prod.mk.inj read
      rw [openBracket_plain (further ▸ plain _), further]
      exact congrArg _ (openItems_append items left suffix)

/-- Items that are alike and are sets have sets that agree. -/
theorem Primitive.Alike.set_agrees {left right : CharSet}
    (alike : Primitive.Alike (CharSet.Recast flags ignoreCase) (.set left) (.set right)) :
    left.Agrees flags ignoreCase right := by
  cases alike with
  | same => exact .refl left
  | set both =>
    exact ⟨fun unchanged => both.same (.inl unchanged), both.folds, fun basic _ _ => by
      rw [both.same (.inr basic)]⟩

/-- An item of a bracket is read alike whatever follows. -/
theorem bracketItem_carried (flags : Flags) (ignoreCase : Bool) {suffix : List Char}
    (follower : Follower suffix) (c : Char) (cs : List Char) :
    Carried (Primitive.Alike (CharSet.Recast flags ignoreCase)) suffix (bracketItem flags (c :: cs))
      (bracketItem (flags.withCase ignoreCase) (c :: (cs ++ suffix))) := by
  by_cases backslash : c = '\\'
  · subst backslash
    exact escape_carried flags ignoreCase follower cs
  · simp only [bracketItem]
    exact .some (.same _) cs

/-- A single item of a list as a set. -/
def singleItem (flags : Flags) (first : Primitive) (rest : List Char) :
    Option (CharSet × List Char) :=
  match first with
  | .literal c byte => if literalAllowed flags c byte then some (.single c, rest) else none
  | .set set => some (set, rest)
  | _ => none

/-- An item that is no end of a range is read alike. -/
theorem singleItem_carried {first other : Primitive}
    (alike : first.Alike (CharSet.Recast flags ignoreCase) other) (suffix rest : List Char) :
    Carried (CharSet.Agrees flags ignoreCase) suffix (singleItem flags first rest)
      (singleItem (flags.withCase ignoreCase) other (rest ++ suffix)) := by
  cases first with
  | literal c byte =>
    cases alike
    exact .ite (fun _ => .some (.refl _) rest) fun _ => .none
  | dot => exact .none
  | assertion condition => exact .none
  | set set =>
    cases other with
    | set set' => exact .some alike.set_agrees rest
    | literal => exact nomatch alike
    | dot => exact nomatch alike
    | assertion => exact nomatch alike

/-- A range between two items. -/
def rangeItem (flags : Flags) (first last : Primitive) (rest : List Char) :
    Option (CharSet × List Char) :=
  match first, last with
  | .literal low lowByte, .literal high highByte =>
    if low ≤ high ∧ literalAllowed flags low lowByte ∧ literalAllowed flags high highByte then
      some (.range low high, rest)
    else none
  | _, _ => none

/-- The two ends of a range are read alike. -/
theorem rangeItem_carried {first last first' last' : Primitive}
    (alike : first.Alike (CharSet.Recast flags ignoreCase) first')
    (alike' : last.Alike (CharSet.Recast flags ignoreCase) last') (suffix rest : List Char) :
    Carried (CharSet.Agrees flags ignoreCase) suffix (rangeItem flags first last rest)
      (rangeItem (flags.withCase ignoreCase) first' last' (rest ++ suffix)) := by
  cases first with
  | literal c byte =>
    cases alike
    cases last with
    | literal d byte' =>
      cases alike'
      exact .ite (fun _ => .some (.refl _) rest) fun _ => .none
    | dot => exact .none
    | assertion condition => exact .none
    | set set => exact .none
  | dot => exact .none
  | assertion condition => exact .none
  | set set => exact .none

/-- A range is an item, a hyphen and another item, unless the hyphen stands last or is an operator.
-/
theorem bracketRange_eq (flags : Flags) (cs : List Char) :
    bracketRange flags cs = (bracketItem flags cs).bind fun first =>
      match flags.skip first.2 with
      | [] => none
      | '-' :: after =>
        match flags.skip after with
        | [] => none
        | ']' :: _ => singleItem flags first.1 first.2
        | '-' :: _ => singleItem flags first.1 first.2
        | after => (bracketItem flags after).bind fun last =>
          rangeItem flags first.1 last.1 last.2
      | _ => singleItem flags first.1 first.2 := rfl

/-- The next item of a list of characters is read alike where more text follows. -/
theorem bracketRange_carried (flags : Flags) (ignoreCase : Bool) {suffix : List Char}
    (follower : Follower suffix) (c : Char) (cs : List Char) :
    Carried (CharSet.Agrees flags ignoreCase) suffix (bracketRange flags (c :: cs))
      (bracketRange (flags.withCase ignoreCase) (c :: (cs ++ suffix))) := by
  intro found rest read
  rw [bracketRange_eq] at read ⊢
  obtain ⟨⟨first, after⟩, item, read⟩ := Option.bind_eq_some_iff.mp read
  obtain ⟨first', item', alike⟩ := bracketItem_carried flags ignoreCase follower c cs _ _ item
  rw [item', Option.bind_some]
  simp only [Flags.skip_withCase] at read ⊢
  cases skipped : flags.skip after with
  | nil =>
    rw [skipped] at read
    exact nomatch read
  | cons d others =>
    rw [skip_cons flags skipped]
    rw [skipped] at read
    by_cases hyphen : d = '-'
    · subst hyphen
      simp only at read ⊢
      cases skipped' : flags.skip others with
      | nil =>
        rw [skipped'] at read
        exact nomatch read
      | cons e further =>
        rw [skip_cons flags skipped']
        rw [skipped'] at read
        by_cases close : e = ']'
        · subst close
          exact singleItem_carried alike suffix after _ _ read
        · by_cases second : e = '-'
          · subst second
            exact singleItem_carried alike suffix after _ _ read
          · simp only [List.cons.injEq, close, second, false_and, imp_self, implies_true] at read ⊢
            obtain ⟨⟨last, left⟩, item, read⟩ := Option.bind_eq_some_iff.mp read
            obtain ⟨last', item', alike'⟩ :=
              bracketItem_carried flags ignoreCase follower e further _ _ item
            rw [item', Option.bind_some]
            exact rangeItem_carried alike alike' suffix left _ _ read
    · simp only [List.cons.injEq, hyphen, false_and, imp_self, implies_true] at read ⊢
      exact singleItem_carried alike suffix after _ _ read

/-- Steps of reading that agree, with more text left after one of them. -/
inductive BracketStep.Alike (flags : Flags) (ignoreCase : Bool) (suffix : List Char) :
    BracketStep → BracketStep → Prop
  | more {state other : BracketState} {rest : List Char}
      (agree : state.Agrees flags ignoreCase other) :
      Alike flags ignoreCase suffix (.more state rest) (.more other (rest ++ suffix))
  | done {found other : NestedSet} {rest : List Char}
      (agree : found.Agrees flags ignoreCase other) :
      Alike flags ignoreCase suffix (.done found rest) (.done other (rest ++ suffix))

/-- Brackets agree still with classes that agree put into them. -/
theorem BracketState.Agrees.push {state other : BracketState}
    (agree : state.Agrees flags ignoreCase other) {set set' : CharSet}
    (sets : set.Agrees flags ignoreCase set') :
    (state.push ⟨set, 0⟩).Agrees flags ignoreCase (other.push ⟨set', 0⟩) :=
  ⟨agree.opened, .cons ⟨sets, rfl⟩ agree.items⟩

/-- An operator closes the left side alike in both. -/
theorem BracketState.operate_agrees {state other : BracketState}
    (agree : state.Agrees flags ignoreCase other) (which : SetOperation) :
    Option.Rel (BracketState.Agrees flags ignoreCase) (state.operate flags which)
      (other.operate (flags.withCase ignoreCase) which) := by
  obtain ⟨opened, items⟩ := state
  obtain ⟨opened', items'⟩ := other
  obtain ⟨brackets, lists⟩ := agree
  cases brackets with
  | nil => exact Option.Rel.none
  | cons innermost outer =>
    have left := combine_agrees innermost.operand (unionItems_agrees lists)
    exact .some ⟨.cons ⟨innermost.negated, innermost.outer, .some ⟨rfl, left⟩⟩ outer, .nil⟩

theorem rel_map {α β γ δ : Type} {R : α → β → Prop} {S : γ → δ → Prop} {left : Option α}
    {right : Option β} (related : Option.Rel R left right) {f : α → γ} {g : β → δ}
    (maps : ∀ a b, R a b → S (f a) (g b)) : Option.Rel S (left.map f) (right.map g) := by
  cases related with
  | none => exact .none
  | some related => exact .some (maps _ _ related)

/-- A step that starts with one of some characters, or reads a range. -/
theorem bracketStep_range (flags : Flags) (state : BracketState) {c : Char} {cs : List Char}
    (opens : c ≠ '[') (closes : c ≠ ']')
    (operates : ∀ d ∈ cs.head?, ¬ (c = d ∧ d ∈ ['&', '-', '~'])) :
    bracketStep flags state (c :: cs) = (bracketRange flags (c :: cs)).map fun found =>
      .more (state.push ⟨found.1, 0⟩) found.2 := by
  unfold bracketStep
  split
  · next same => exact absurd (List.cons.inj same).1 opens
  · next same => exact absurd (List.cons.inj same).1 closes
  all_goals first
    | rfl
    | next same =>
      obtain ⟨rfl, rfl⟩ := List.cons.inj same
      exact absurd ⟨rfl, by decide⟩ (operates _ rfl)

/-- A step that is an operator goes on alike. -/
theorem operation_alike {state other : BracketState} (agree : state.Agrees flags ignoreCase other)
    (which : SetOperation) (suffix rest : List Char) :
    Option.Rel (BracketStep.Alike flags ignoreCase suffix)
      ((state.operate flags which).map fun state => .more state rest)
      ((other.operate (flags.withCase ignoreCase) which).map fun state =>
        .more state (rest ++ suffix)) :=
  rel_map (BracketState.operate_agrees agree which) fun _ _ agree => .more agree

/-- A step that closes a bracket goes on, or ends, alike. -/
theorem closeStep_alike {state other : BracketState} (agree : state.Agrees flags ignoreCase other)
    (suffix cs : List Char) :
    Option.Rel (BracketStep.Alike flags ignoreCase suffix) (bracketStep flags state (']' :: cs))
      (bracketStep (flags.withCase ignoreCase) other (']' :: (cs ++ suffix))) := by
  obtain ⟨opened, items⟩ := state
  obtain ⟨opened', items'⟩ := other
  obtain ⟨brackets, lists⟩ := agree
  cases brackets with
  | nil => exact .none
  | cons bracket rest =>
    refine rel_map (closeBracket_agrees bracket lists) fun set set' agree => ?_
    cases rest with
    | nil => exact .done agree
    | cons next others => exact .more ⟨.cons next others, .cons agree bracket.outer⟩

/-- A step that opens a bracket inside another goes on alike. -/
theorem openStep_alike {state other : BracketState} (agree : state.Agrees flags ignoreCase other)
    {suffix : List Char} (follower : Follower suffix) {cs : List Char} {step : BracketStep}
    (read : bracketStep flags state ('[' :: cs) = some step)
    (further : ∀ state, step ≠ .more state []) :
    ∃ step', bracketStep (flags.withCase ignoreCase) other ('[' :: (cs ++ suffix)) = some step' ∧
      step.Alike flags ignoreCase suffix step' := by
  have outermost : other.opened.isEmpty = state.opened.isEmpty := by
    rw [Bool.eq_iff_iff, List.isEmpty_iff_length_eq_zero, List.isEmpty_iff_length_eq_zero,
      agree.opened.length_eq]
  have named : Option.Rel
      (fun one other => one.1.Agrees flags ignoreCase other.1 ∧ other.2 = one.2 ++ suffix)
      (if state.opened.isEmpty then none else basicClass flags cs)
      (if other.opened.isEmpty then none
        else basicClass (flags.withCase ignoreCase) (cs ++ suffix)) := by
    rw [outermost]
    split
    · exact .none
    · exact basicClass_rel flags ignoreCase follower cs
  simp only [bracketStep] at read ⊢
  revert named read
  generalize (if state.opened.isEmpty then none else basicClass flags cs) = class?
  generalize (if other.opened.isEmpty then none
    else basicClass (flags.withCase ignoreCase) (cs ++ suffix)) = class'?
  intro named read
  cases named with
  | @some found found' agrees =>
    obtain ⟨set, rest⟩ := found
    obtain ⟨set', rest'⟩ := found'
    obtain ⟨sets, rfl⟩ := agrees
    obtain rfl := Option.some.inj read
    exact ⟨_, rfl, .more (agree.push sets)⟩
  | none =>
    obtain ⟨negated, items, rest, opened⟩ :
        ∃ negated items rest, openBracket flags cs = (negated, items, rest) := ⟨_, _, _, rfl⟩
    simp only [opened] at read
    obtain rfl := Option.some.inj read
    have left : rest ≠ [] := by
      rintro rfl
      exact further _ rfl
    have opened' : openBracket (flags.withCase ignoreCase) (cs ++ suffix) =
        (negated, items, rest ++ suffix) := by
      rw [openBracket_withCase]
      exact openBracket_append opened left suffix
    simp only [opened']
    exact ⟨_, rfl, .more ⟨.cons ⟨rfl, agree.items, .none⟩ agree.opened,
      List.forall₂_same.mpr fun item _ => .refl item⟩⟩

/-- One item of a bracketed class is read alike where more text follows, unless the text is over
where the class goes on. -/
theorem bracketStep_alike {state other : BracketState} (agree : state.Agrees flags ignoreCase other)
    {suffix : List Char} (follower : Follower suffix) {c : Char} {cs : List Char}
    {step : BracketStep}
    (read : bracketStep flags state (c :: cs) = some step)
    (further : ∀ state, step ≠ .more state []) :
    ∃ step', bracketStep (flags.withCase ignoreCase) other (c :: (cs ++ suffix)) = some step' ∧
      step.Alike flags ignoreCase suffix step' := by
  have related {alone spliced : Option BracketStep}
      (alike : Option.Rel (BracketStep.Alike flags ignoreCase suffix) alone spliced)
      (read : alone = some step) :
      ∃ step', spliced = some step' ∧ step.Alike flags ignoreCase suffix step' := by
    cases alike with
    | none => exact nomatch read
    | some alike => exact ⟨_, rfl, Option.some.inj read ▸ alike⟩
  by_cases opens : c = '['
  · subst opens
    exact openStep_alike agree follower read further
  by_cases closes : c = ']'
  · subst closes
    exact related (closeStep_alike agree suffix cs) read
  by_cases operates : ∃ d ∈ cs.head?, c = d ∧ d ∈ ['&', '-', '~']
  · obtain ⟨d, first, rfl, sign⟩ := operates
    obtain ⟨rest, rfl⟩ := List.head?_eq_some_iff.mp first
    simp only [List.mem_cons, List.not_mem_nil, or_false] at sign
    rcases sign with rfl | rfl | rfl <;> exact related (operation_alike agree _ suffix rest) read
  · have alone : ∀ d ∈ cs.head?, ¬ (c = d ∧ d ∈ ['&', '-', '~']) :=
      fun d first both => operates ⟨d, first, both⟩
    have spliced : ∀ d ∈ (cs ++ suffix).head?, ¬ (c = d ∧ d ∈ ['&', '-', '~']) := by
      cases cs with
      | nil =>
        intro d first both
        obtain rfl : d = ')' := follower d first
        exact absurd both.2 (by decide)
      | cons e rest => exact alone
    rw [bracketStep_range flags state opens closes alone] at read
    rw [bracketStep_range _ other opens closes spliced]
    obtain ⟨⟨set, rest⟩, range, rfl⟩ := Option.map_eq_some_iff.mp read
    obtain ⟨set', range', sets⟩ := bracketRange_carried flags ignoreCase follower c cs _ _ range
    rw [range']
    exact ⟨_, rfl, .more (agree.push sets)⟩

theorem bracketStep_nil (flags : Flags) (state : BracketState) :
    bracketStep flags state [] = none := rfl

/-- No bracket is closed by the end of the text. -/
theorem bracketLoop_nil (flags : Flags) (bound : Nat) (state : BracketState) :
    bracketLoop flags bound state [] = none := by
  cases bound with
  | zero => rfl
  | succ bound =>
    have empty : flags.skip [] = [] := skip_follower flags follower_nil
    simp only [bracketLoop, empty, bracketStep_nil]

/-- A bracket is read alike to its end, whatever follows it. -/
theorem bracketLoop_append {state other : BracketState}
    (agree : state.Agrees flags ignoreCase other) {suffix : List Char} (follower : Follower suffix)
    {bound more : Nat} (many : bound ≤ more)
    {cs rest : List Char} {found : NestedSet}
    (read : bracketLoop flags bound state cs = some (found, rest)) :
    ∃ found', bracketLoop (flags.withCase ignoreCase) more other (cs ++ suffix) =
      some (found', rest ++ suffix) ∧ found.Agrees flags ignoreCase found' := by
  induction bound generalizing state other more cs with
  | zero => exact nomatch read
  | succ bound ih =>
    obtain ⟨more, rfl⟩ := Nat.exists_eq_add_of_le' (Nat.le_of_add_left_le many)
    unfold bracketLoop at read ⊢
    rw [Flags.skip_withCase]
    cases skipped : flags.skip cs with
    | nil =>
      rw [skipped, bracketStep_nil] at read
      exact nomatch read
    | cons c after =>
      rw [skip_cons flags skipped]
      rw [skipped] at read
      cases step : bracketStep flags state (c :: after) with
      | none =>
        rw [step] at read
        exact nomatch read
      | some result =>
        rw [step] at read
        have further : ∀ state, result ≠ .more state [] := by
          rintro state rfl
          exact nomatch (bracketLoop_nil flags bound state).symm.trans read
        obtain ⟨result', step', alike⟩ := bracketStep_alike agree follower step further
        rw [step']
        cases alike with
        | more agree' => exact ih agree' (by omega) read
        | done agree' =>
          obtain ⟨rfl, rfl⟩ := Prod.mk.inj (Option.some.inj read)
          exact ⟨_, rfl, agree'⟩

/-- A bracketed class is read alike where more text follows. -/
theorem bracket_carried (flags : Flags) (ignoreCase : Bool) {suffix : List Char}
    (follower : Follower suffix) (cs : List Char) :
    Carried (NestedSet.Agrees flags ignoreCase) suffix (bracket flags cs)
      (bracket (flags.withCase ignoreCase) (cs ++ suffix)) := by
  intro found rest read
  refine bracketLoop_append ⟨.nil, .nil⟩ follower ?_ read
  rw [List.length_append]
  omega

end Items

end Scrutiny.Pattern
