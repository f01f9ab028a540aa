import Mathlib.Data.List.TakeWhile
import Scrutiny.Proofs.ErrorMap.Recording
import Scrutiny.Proofs.Record.Conforming

/-! # Reading the names of scopes

A name is defined as a whole, without the white space around it and without regard to case. An
expression is cut at its separators before anything else, and blank parts are left out. So a name
that is blank or has a separator in it can be defined but never read, and every other name is read,
in all its spellings, as the scope that was defined for it (`ScopeNames.define_parseScope`).
-/

namespace Scrutiny

namespace Scope

/-- An operation, told by the place of its bit, belongs to a scope. -/
def Has (scope : Scope) (place : Nat) : Prop :=
  scope.bits.toNat.testBit place = true

/-- A scope of one operation. -/
def IsSingle (scope : Scope) : Prop :=
  ∃ place, ∀ other, scope.Has other ↔ other = place

theorem not_has_none (place : Nat) : ¬Scope.none.Has place := by
  simp [Has, none]

theorem has_union {left right : Scope} {place : Nat} :
    (left.union right).Has place ↔ left.Has place ∨ right.Has place := by
  simp only [Has, union, UInt32.toNat_or, Nat.testBit_or, Bool.or_eq_true]

theorem none_union (scope : Scope) : Scope.none.union scope = scope := by
  simp [union, none]

/-- Scopes intersect if they have a place in common. -/
theorem intersects_iff {left right : Scope} :
    left.intersects right ↔ ∃ place, left.Has place ∧ right.Has place := by
  simp only [intersects, bne_iff_ne, ne_eq, ← UInt32.toNat_inj, UInt32.toNat_and]
  constructor
  · intro shared
    obtain ⟨place, both⟩ := Nat.exists_testBit_of_ne_zero shared
    rw [Nat.testBit_and, Bool.and_eq_true] at both
    exact ⟨place, both⟩
  · rintro ⟨place, one, other⟩ nothing
    have both := (Nat.testBit_and _ _ place).trans (Bool.and_eq_true_iff.mpr ⟨one, other⟩)
    simp [nothing] at both

/-- The scope of everything has all of its places. -/
theorem has_all {place : Nat} (small : place < 32) : Scope.all.Has place := by
  have bits : Scope.all.bits.toNat = 2 ^ 32 - 1 := rfl
  rw [Has, bits, Nat.testBit_two_pow_sub_one]
  exact decide_eq_true small

/-- What is taken for a single bit is one. -/
theorem isSingle_of_single? {value : Nat} {scope : Scope} (single : single? value = some scope) :
    scope.IsSingle := by
  unfold single? at single
  split at single
  · next power =>
    obtain rfl := Option.some.inj single
    obtain ⟨place, small, same⟩ := List.any_eq_true.mp power
    have small : place < 32 := List.mem_range.mp small
    have value_eq : value = 2 ^ place := by
      rw [eq_of_beq same, Nat.shiftLeft_eq, Nat.one_mul]
    have bits : value.toUInt32.toNat = 2 ^ place := by
      rw [value_eq]
      exact Nat.mod_eq_of_lt (Nat.pow_lt_pow_right Nat.one_lt_two small)
    refine ⟨place, fun other => ?_⟩
    rw [Has, bits, Nat.testBit_two_pow, decide_eq_true_iff]
    exact eq_comm
  · exact absurd single (by simp)

/-- A scope with every operation has more than one. -/
theorem IsSingle.not_all_le {scope : Scope} (single : scope.IsSingle) :
    ¬∀ place, Scope.all.Has place → scope.Has place := by
  obtain ⟨place, only⟩ := single
  intro whole
  have first := (only 0).mp (whole 0 (has_all (by decide)))
  have second := (only 1).mp (whole 1 (has_all (by decide)))
  omega

end Scope

namespace Text

/-- Trimming at the start keeps what is no white space. -/
theorem mem_trimStart {c : Char} {cs : List Char} (member : c ∈ cs)
    (dark : isWhiteSpace c = false) : c ∈ trimStart cs := by
  rw [← List.takeWhile_append_dropWhile (p := isWhiteSpace) (l := cs)] at member
  rcases List.mem_append.mp member with cut | kept
  · exact absurd (List.mem_takeWhile_imp cut) (by simp [dark])
  · exact kept

theorem mem_trimChars {c : Char} {cs : List Char} (member : c ∈ cs)
    (dark : isWhiteSpace c = false) : c ∈ trimChars cs :=
  List.mem_reverse.mpr (mem_trimStart (List.mem_reverse.mpr (mem_trimStart member dark)) dark)

theorem trimChars_subset (cs : List Char) : trimChars cs ⊆ cs := by
  intro c member
  have kept := List.dropWhile_subset _ (List.mem_reverse.mp member)
  exact List.dropWhile_subset _ (List.mem_reverse.mp kept)

end Text

namespace ScopeNames

/-- The plain form of a name is its trimmed text in small letters. -/
theorem toList_plain (name : String) :
    (plain name).toList = (Text.trimChars name.toList).map Char.toLower := by
  simp only [plain, Text.lowerBasic, Text.trim, String.toList_ofList]

/-- The separators are the bar and the comma. -/
theorem isSeparator_iff {c : Char} : isSeparator c ↔ c.toNat = 124 ∨ c.toNat = 44 := by
  have bar : c = '|' ↔ c.toNat = 124 := Char.toNat_inj.symm
  have comma : c = ',' ↔ c.toNat = 44 := Char.toNat_inj.symm
  simp only [isSeparator, Bool.or_eq_true, beq_iff_eq, bar, comma]

/-- Neither a capital nor its small letter is a separator. -/
theorem isSeparator_toLower (c : Char) : isSeparator c.toLower = isSeparator c := by
  by_cases capital : c.val ≥ 'A'.val ∧ c.val ≤ 'Z'.val
  · have first : 65 ≤ c.toNat := capital.1
    have last : c.toNat ≤ 90 := capital.2
    have lower : c.toLower.val = c.val + 32 := congrArg Char.val (dif_pos capital)
    have small : c.toLower.toNat = (c.toNat + 32) % 2 ^ 32 :=
      (congrArg UInt32.toNat lower).trans (UInt32.toNat_add _ _)
    rw [Bool.eq_iff_iff, isSeparator_iff, isSeparator_iff]
    omega
  · have same : c.toLower = c := dif_neg capital
    rw [same]

theorem not_white_of_isSeparator {c : Char} (separates : isSeparator c) :
    Text.isWhiteSpace c = false := by
  simp only [isSeparator, Bool.or_eq_true, beq_iff_eq] at separates
  rcases separates with rfl | rfl <;> decide

/-- A name that an expression can hold: it is not empty and no separator cuts it. -/
def Legible (key : String) : Prop :=
  key ≠ "" ∧ ∀ c ∈ key.toList, isSeparator c = false

theorem splitParts_of_free {current cs : List Char} (free : ∀ c ∈ cs, isSeparator c = false) :
    splitParts current cs = [current ++ cs] := by
  induction cs generalizing current with
  | nil => rw [splitParts, List.append_nil]
  | cons c rest ih =>
    have first := free c List.mem_cons_self
    rw [splitParts, first, if_neg Bool.false_ne_true,
      ih fun later member => free later (List.mem_cons_of_mem _ member), List.append_assoc]
    rfl

theorem free_of_mem_splitParts {current cs part : List Char}
    (before : ∀ c ∈ current, isSeparator c = false) (member : part ∈ splitParts current cs) :
    ∀ c ∈ part, isSeparator c = false := by
  induction cs generalizing current with
  | nil => rwa [List.mem_singleton.mp member]
  | cons c rest ih =>
    rw [splitParts] at member
    split at member
    · rcases List.mem_cons.mp member with rfl | later
      · exact before
      · exact ih (fun _ none => absurd none List.not_mem_nil) later
    · next inner =>
      refine ih (fun other listed => ?_) member
      rcases List.mem_append.mp listed with old | new
      · exact before other old
      · rw [List.mem_singleton.mp new]
        exact eq_false_of_ne_true inner

/-- What an expression lists can stand in an expression. -/
theorem legible_of_mem_tokens {expression token : String} (member : token ∈ tokens expression) :
    Legible token := by
  obtain ⟨part, listed, made⟩ := List.mem_filterMap.mp member
  have free := free_of_mem_splitParts (fun _ none => absurd none List.not_mem_nil) listed
  split at made
  · exact absurd made (by simp)
  · next name dark =>
    obtain rfl := Option.some.inj made
    constructor
    · intro empty
      rw [Text.lowerBasic, String.ofList_eq_empty_iff, String.toList_ofList] at empty
      exact dark (List.map_eq_nil_iff.mp empty)
    · intro c inside
      simp only [Text.lowerBasic, String.toList_ofList, List.mem_map] at inside
      obtain ⟨upper, inside, rfl⟩ := inside
      rw [isSeparator_toLower]
      exact free upper (Text.trimChars_subset part inside)

/-- A name that can stand in an expression is what each of its spellings lists. -/
theorem tokens_of_legible {name spelling : String} (same : plain spelling = plain name)
    (legible : Legible (plain name)) : tokens spelling = [plain name] := by
  have free : ∀ c ∈ spelling.toList, isSeparator c = false := by
    intro c member
    apply eq_false_of_ne_true
    intro separates
    have kept := Text.mem_trimChars member (not_white_of_isSeparator separates)
    have lower : c.toLower ∈ (plain spelling).toList := by
      rw [toList_plain]
      exact List.mem_map_of_mem kept
    rw [same] at lower
    have whole := legible.2 _ lower
    rw [isSeparator_toLower, separates] at whole
    exact absurd whole (by simp)
  have dark : Text.trimChars spelling.toList ≠ [] := by
    intro blank
    apply legible.1
    rw [← same, ← String.toList_eq_nil_iff, toList_plain, blank, List.map_nil]
  rw [tokens, splitParts_of_free free, List.nil_append, ← same]
  cases kept : Text.trimChars spelling.toList with
  | nil => exact absurd kept dark
  | cons c rest => simp only [List.filterMap_cons, List.filterMap_nil, kept, plain, Text.trim]

/-- The operations that an expression adds are those of the names that it lists. -/
theorem has_of_addTokens {table : ScopeNames} {scope whole : Scope} {control flags : Control}
    {tokens : List String} (read : table.addTokens scope control tokens = .ok (whole, flags))
    (place : Nat) : whole.Has place ↔ scope.Has place ∨
      ∃ token ∈ tokens, ∃ named, table.names.get? token = some named ∧ named.Has place := by
  induction tokens generalizing scope control with
  | nil =>
    obtain ⟨rfl, _⟩ := Prod.mk.inj (Except.ok.inj read)
    simp
  | cons token rest ih =>
    rw [addTokens] at read
    cases found : table.names.get? token with
    | some named =>
      rw [found] at read
      rw [ih read, Scope.has_union, List.exists_mem_cons_iff]
      simp only [found, Option.some.injEq, exists_eq_left', or_assoc]
    | none =>
      rw [found] at read
      rw [List.exists_mem_cons_iff]
      simp only [found, reduceCtorEq, false_and, exists_false, false_or]
      split at read
      · next absent => exact absurd absent (by simp)
      split at read
      · exact ih read
      · exact absurd read (by simp)

/-- An expression is a scope if its names add up to one, with no control among them. -/
theorem parseScope_eq_ok {table : ScopeNames} {expression : String} {scope : Scope} :
    table.parseScope expression = .ok scope ↔ ∃ control,
      table.addTokens .none .none (tokens expression) = .ok (scope, control) ∧ control.isEmpty := by
  unfold parseScope parseFlags
  cases table.addTokens .none .none (tokens expression) with
  | error error => simp [bind, Except.bind]
  | ok read =>
    obtain ⟨whole, flags⟩ := read
    by_cases plain : flags.isEmpty
    · simp [bind, Except.bind, plain]
    · simp only [bind, Except.bind, plain, Bool.false_eq_true, ↓reduceIte, reduceCtorEq,
        Except.ok.injEq, Prod.mk.injEq, false_iff, not_exists, not_and]
      rintro control ⟨rfl, rfl⟩
      exact plain

/-- A name is defined if it could be when that was tried. -/
theorem define_eq_ok_iff {table defined : ScopeNames} {name : String} {value : Nat}
    {scope : Scope} : table.define name value = .ok (scope, defined) ↔
      table.tryDefine name value = (.ok scope, defined) := by
  unfold define
  rcases table.tryDefine name value with ⟨_ | _, _⟩ <;> simp [Except.map]

/-- A definition fails as the attempt does, and for the same reason. -/
theorem define_eq_error_iff {table : ScopeNames} {name : String} {value : Nat}
    {error : DeclarationError} : table.define name value = .error error ↔
      (table.tryDefine name value).1 = .error error := by
  unfold define
  rcases table.tryDefine name value with ⟨_ | _, _⟩ <;> simp [Except.map]

/-- A name that cannot be defined leaves the table as it is. -/
theorem tryDefine_of_error {table : ScopeNames} {name : String} {value : Nat}
    {error : DeclarationError} (refused : (table.tryDefine name value).1 = .error error) :
    (table.tryDefine name value).2 = table := by
  unfold tryDefine at refused ⊢
  simp only at refused ⊢
  split
  · rfl
  · next new =>
    rw [if_neg new] at refused
    cases bit : singleBit (plain name) value with
    | error => rfl
    | ok single =>
      rw [bit] at refused
      simp only at refused ⊢
      split
      · rfl
      · next free =>
        rw [free] at refused
        exact nomatch refused

/-- What defining a name takes: the name is new, the value is a bit, and no other name but that of
all operations has it. -/
theorem define_eq_ok {table defined : ScopeNames} {name : String} {value : Nat} {scope : Scope}
    (done : table.define name value = .ok (scope, defined)) :
    plain name ∉ table.names.keys ∧ Control.named? (plain name) = none ∧ scope.IsSingle ∧
      (∀ entry ∈ table.names, entry.2 ≠ .all → ¬entry.2.intersects scope) ∧
      defined = ⟨table.names.put (plain name) scope⟩ := by
  replace done := define_eq_ok_iff.mp done
  unfold tryDefine at done
  simp only at done
  split at done
  · exact absurd done (by simp)
  next new =>
  cases bit : singleBit (plain name) value with
  | error error =>
    rw [bit] at done
    exact absurd done (by simp)
  | ok single =>
  rw [bit] at done
  simp only at done
  split at done
  · exact absurd done (by simp)
  next free =>
  obtain ⟨known, rfl⟩ := Prod.mk.inj done
  obtain rfl := Except.ok.inj known
  simp only [Bool.or_eq_true, not_or, Bool.not_eq_true, Option.isSome_eq_false_iff,
    Option.isNone_iff_eq_none, Entries.has] at new
  refine ⟨Entries.get?_eq_none_iff.mp new.1, new.2, ?_, ?_, rfl⟩
  · unfold singleBit at bit
    split at bit
    · next found =>
      obtain rfl := Except.ok.inj bit
      exact Scope.isSingle_of_single? found
    · exact absurd bit (by simp)
  · intro entry listed other shared
    have clash := List.find?_eq_none.mp free entry listed
    exact clash (by simp [other, shared])

/-- **A name can be read if an expression can hold it.** When a name has been defined, a spelling of
it is read as the scope that was defined if and only if the name is not blank and has no separator
in it. -/
theorem define_parseScope {table defined : ScopeNames} {name : String} {value : Nat} {scope : Scope}
    (done : table.define name value = .ok (scope, defined)) {spelling : String}
    (same : plain spelling = plain name) :
    defined.parseScope spelling = .ok scope ↔ Legible (plain name) := by
  obtain ⟨_, _, single, apart, rfl⟩ := define_eq_ok done
  constructor
  · intro read
    obtain ⟨control, added, _⟩ := parseScope_eq_ok.mp read
    have has := has_of_addTokens added
    obtain ⟨place, only⟩ := single
    obtain ⟨token, listed, named, found, member⟩ :=
      ((has place).mp ((only place).mpr rfl)).resolve_left (Scope.not_has_none place)
    by_cases own : token = plain name
    · exact own ▸ legible_of_mem_tokens listed
    · -- Another name has the operation, so it is that of all operations, which are too many.
      rw [Entries.get?_put_of_ne _ _ own] at found
      have shared : named.intersects scope :=
        Scope.intersects_iff.mpr ⟨place, member, (only place).mpr rfl⟩
      have everything : named = .all := by
        by_contra other
        exact apart _ (Entries.mem_of_get? found) other shared
      exfalso
      apply Scope.IsSingle.not_all_le ⟨place, only⟩
      intro every inside
      apply (has every).mpr
      refine .inr ⟨token, listed, named, ?_, everything ▸ inside⟩
      rw [Entries.get?_put_of_ne _ _ own, found]
  · intro legible
    refine parseScope_eq_ok.mpr ⟨.none, ?_, rfl⟩
    rw [tokens_of_legible same legible]
    simp only [addTokens, Entries.get?_put_self, Scope.none_union]

/-- A name is read in other letters and with white space around it. -/
theorem define_parseScope_publish :
    ∃ scope defined, standard.define "publish" 16 = .ok (scope, defined) ∧
      plain "  PuBlish " = plain "publish" ∧ Legible (plain "publish") ∧
      defined.parseScope "  PuBlish " = .ok scope := by
  obtain ⟨scope, defined, done⟩ : ∃ scope defined,
      standard.define "publish" 16 = .ok (scope, defined) := ⟨_, _, rfl⟩
  have same : plain "  PuBlish " = plain "publish" := by decide
  have key : plain "publish" = "publish" := rfl
  have legible : Legible (plain "publish") := by
    rw [key]
    exact ⟨by decide, by simp [isSeparator]⟩
  exact ⟨scope, defined, done, same, legible, (define_parseScope done same).mpr legible⟩

/-- A name with a separator in it is defined but not read. -/
theorem define_parseScope_separated :
    ∃ defined, standard.define "a|b" 16 = .ok (⟨16⟩, defined) ∧
      defined.parseScope "a|b" = .error (.unknownFlag "a") :=
  ⟨_, rfl, rfl⟩

end ScopeNames

end Scrutiny
