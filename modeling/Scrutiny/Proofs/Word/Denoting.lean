import Scrutiny.Proofs.Pattern.Languages
import Scrutiny.Proofs.Word.Compiling
import Scrutiny.Proofs.Word.Merging

/-! # What fragments denote

The fragment of a unit is a pattern of its own. Whichever characters it is made of, they stand for
themselves: a class is matched by each of its characters and by nothing else, and what has no class
by its own text and by nothing else (`fragment_denotes`). Inside brackets other characters have a
meaning than outside of them. All of these are escaped (`Pattern.notMem_signs`), so whichever
characters stand side by side in a class, each is read by itself.
-/

namespace Scrutiny

namespace Pattern

/-- A pattern without groups is matched by some texts and by no others, wherever they stand in a
longer text. -/
structure Denotes (pattern : Pattern) (texts : Set String) : Prop where
  groups : pattern.groupCount = 0
  mem_ends_iff : ∀ before whole after : String, before.length + whole.length ∈
    pattern.ends (before ++ whole ++ after).toList.toArray before.length ↔ whole ∈ texts

theorem groupCount_sets (sets : List CharSet) : (seqAll (sets.map .one)).groupCount = 0 := by
  match sets with
  | [] => rfl
  | [_] => rfl
  | first :: second :: sets =>
    have rest := groupCount_sets (second :: sets)
    exact (Nat.zero_add _).trans rest

/-- The beginning of a text is no longer than the text. -/
theorem length_le_size (before whole after : String) :
    before.length ≤ (before ++ whole ++ after).toList.toArray.size := by
  rw [Word.size_chars, String.length_append, String.length_append]
  omega

/-- A denoting pattern is found in a text exactly if a part of the text is denoted. -/
theorem Denotes.matchesText_iff {pattern : Pattern} {texts : Set String}
    (denotes : pattern.Denotes texts) (text : String) :
    pattern.matchesText text = true ↔
      ∃ before whole after, text = before ++ whole ++ after ∧ whole ∈ texts := by
  rw [matchesText, find?_isSome]
  constructor
  · rintro ⟨place, last, inside, found⟩
    have bounds := found.bounds
    obtain ⟨before, after, whole, first, length⟩ :=
      Word.split_text text bounds.1 (Word.size_chars text ▸ bounds.2 inside)
    refine ⟨before, _, after, whole, (denotes.mem_ends_iff before _ after).mp ?_⟩
    rw [← whole, length, first]
    exact (mem_ends inside).mpr found
  · rintro ⟨before, whole, after, rfl, member⟩
    have inside := length_le_size before whole after
    have found := (denotes.mem_ends_iff before whole after).mpr member
    exact ⟨before.length, _, inside, (mem_ends inside).mp found⟩

end Pattern

namespace Word

open Pattern

/-- Sets one after the other spell the texts that have one of the choices at each place. -/
theorem mem_prod_languages {choices : List (List Char)} {sets : List CharSet}
    (gives : List.Forall₂ Gives choices sets) {cs : List Char} :
    cs ∈ (sets.map CharSet.language).prod ↔ List.Forall₂ (· ∈ ·) cs choices := by
  induction gives generalizing cs with
  | nil => exact List.forall₂_nil_right_iff.symm
  | @cons choice set choices sets here gives ih =>
    simp only [List.map_cons, List.prod_cons, Language.mem_mul, ih]
    constructor
    · rintro ⟨_, ⟨c, member, rfl⟩, others, chosen, rfl⟩
      exact .cons (List.contains_iff_mem.mp (here c ▸ member)) chosen
    · intro chosen
      cases chosen with
      | @cons c _ others _ member chosen =>
        have own : set.has c = true := by
          rw [here c]
          exact List.contains_iff_mem.mpr member
        exact ⟨[c], ⟨c, own, rfl⟩, others, chosen, rfl⟩

/-- Sets one after the other denote the texts that have one of the choices at each place. -/
theorem denotes_sets {choices : List (List Char)} {sets : List CharSet}
    (gives : List.Forall₂ Gives choices sets) :
    (seqAll (sets.map .one)).Denotes {whole | List.Forall₂ (· ∈ ·) whole.toList choices} where
  groups := groupCount_sets sets
  mem_ends_iff before whole after := by
    have spells : (seqAll (sets.map .one)).Spells (sets.map CharSet.language).prod :=
      .seqAll (List.forall₂_map_left_iff.mpr (List.forall₂_map_right_iff.mpr
        (List.forall₂_same.mpr fun set _ => .one set)))
    rw [mem_ends (length_le_size before whole after), String.append_assoc, String.toList_append,
      ← String.length_toList, spells, Set.mem_ofPred_eq, String.toList_append]
    simp only [mem_prod_languages gives]
    constructor
    · rintro ⟨cs, others, split, length, chosen⟩
      rw [← String.length_toList, Nat.add_left_cancel_iff] at length
      obtain ⟨rfl, -⟩ := List.append_inj split length
      exact chosen
    · intro chosen
      exact ⟨whole.toList, after.toList, rfl, by rw [whole.length_toList], chosen⟩

/-- The fragment of a unit is the pattern of the texts that have, for each character of the unit,
one of the choices for it. -/
theorem read?_unitFragment (confusables : Confusables) (u : WordUnit) :
    ∃ pattern, read? false (String.ofList (unitFragment confusables u)) = some pattern ∧
      pattern.Denotes {whole | List.Forall₂ (· ∈ ·) whole.toList (confusables.choices u)} := by
  obtain ⟨next, inners, gives, onward, passes⟩ :
      ∃ next inners, List.Forall₂ Gives (confusables.choices u) inners ∧
        (start false).Extends 2
          (inners.map fun inner => .one ((start false).flags.fold inner)) next ∧
        Passes (start false) (unitFragment confusables u ++ []) next [] :=
    passes_unitFragment rfl u
  obtain ⟨pattern, depth⟩ := onward.finish rfl
  have whole := passes.finish onward.opened
  rw [List.append_nil] at whole
  refine ⟨_, read?_eq_some.mpr ⟨next.level.finish, ?_, depth.trans (by decide), pattern⟩,
    denotes_sets gives⟩
  rw [String.toList_ofList]
  exact whole

/-- The texts of one character out of several. -/
theorem forall₂_singleton_iff {members : List Char} {whole : String} :
    List.Forall₂ (· ∈ ·) whole.toList [members] ↔
      ∃ d ∈ members, whole = String.singleton d := by
  constructor
  · intro chosen
    generalize same : whole.toList = cs at chosen
    cases chosen with
    | @cons d _ _ _ member none =>
      cases none
      refine ⟨d, member, ?_⟩
      rw [← String.toList_inj, same, String.toList_singleton]
  · rintro ⟨d, member, rfl⟩
    rw [String.toList_singleton]
    exact .cons member .nil

namespace Confusables

variable {chars : List Char} {c d : Char}

/-- A list by itself links its own characters, if there are two of them. -/
theorem linked_singleton_iff :
    Linked [chars] c d ↔ Confuses chars ∧ c ∈ chars ∧ d ∈ chars := by
  constructor
  · intro linked
    induction linked with
    | single together =>
      obtain ⟨others, listed, confuses, one, other⟩ := together
      exact List.mem_singleton.mp listed ▸ ⟨confuses, one, other⟩
    | tail _ together ih =>
      obtain ⟨others, listed, -, -, other⟩ := together
      exact ⟨ih.1, ih.2.1, List.mem_singleton.mp listed ▸ other⟩
  · rintro ⟨confuses, one, other⟩
    exact .single ⟨chars, List.mem_singleton_self chars, confuses, one, other⟩

/-- A character of a confusing list has a fragment. -/
theorem exists_fragment (confuses : Confuses chars) (member : c ∈ chars) :
    ∃ text, (none.addAll [chars]).fragment c = some text := by
  refine Option.ne_none_iff_exists'.mp fun absent => ?_
  rw [fragment_eq_none] at absent
  exact absent (linked_singleton_iff.mpr ⟨confuses, member, member⟩)

end Confusables

/-- The fragment of a character in a table of lists is the pattern of what is linked with it. -/
theorem read?_fragment {lists : List (List Char)} {c : Char} {text : List Char}
    (found : (Confusables.none.addAll lists).fragment c = some text) :
    ∃ pattern, read? false (String.ofList text) = some pattern ∧
      pattern.Denotes {whole | ∃ d, Confusables.Linked lists c d ∧ whole = String.singleton d} := by
  obtain ⟨members, -, classed, -, linked⟩ := Confusables.exists_members found
  obtain ⟨pattern, read, denotes⟩ := read?_unitFragment (Confusables.none.addAll lists) (.plain [c])
  rw [unitFragment, found, Option.getD_some] at read
  simp only [Confusables.choices, Confusables.classOf_addAll, classed, Option.getD_some,
    forall₂_singleton_iff, linked] at denotes
  exact ⟨pattern, read, denotes⟩

/-- A pattern that denotes single characters is found in a character alone if that is denoted. -/
theorem matchesText_singleton {pattern : Pattern} {chosen : Char → Prop}
    (denotes : pattern.Denotes {whole | ∃ d, chosen d ∧ whole = String.singleton d}) (c : Char) :
    pattern.matchesText (String.singleton c) = true ↔ chosen c := by
  rw [denotes.matchesText_iff]
  constructor
  · rintro ⟨before, _, after, whole, d, member, rfl⟩
    have inside : d ∈ (String.singleton c).toList := by
      rw [whole]
      simp
    rw [String.toList_singleton, List.mem_singleton] at inside
    exact inside ▸ member
  · intro member
    exact ⟨"", _, "", by rw [String.empty_append, String.append_empty], c, member, rfl⟩

/-- What has no class is chosen from itself alone. -/
theorem choices_of_unclassed {confusables : Confusables} {u : WordUnit}
    (unclassed : ∀ c, u = .plain [c] → confusables.fragment c = none) :
    confusables.choices u = u.chars.map fun c => [c] := by
  unfold Confusables.choices
  split
  · next c =>
    have none := unclassed c rfl
    rw [Confusables.fragment_eq, Option.map_eq_none_iff] at none
    rw [none]
    rfl
  · rfl

/-- Characters that are each chosen from one are these. -/
theorem forall₂_own_iff {cs chars : List Char} :
    List.Forall₂ (· ∈ ·) cs (chars.map fun c => [c]) ↔ cs = chars := by
  rw [List.forall₂_map_right_iff]
  simp only [List.mem_singleton, List.forall₂_eq_eq_eq]

/-- **A fragment denotes its class.** Read with attention to case, the fragment of a character in
any table is a pattern without groups that is matched by the characters linked with it and by
nothing else. So a list of two characters or more by itself gives each of them a fragment for the
characters of the list. The fragment of a unit that is escaped or has no class is matched by the
text of the unit and by nothing else. -/
theorem fragment_denotes :
    (∀ lists c text, (Confusables.none.addAll lists).fragment c = some text → ∃ pattern,
        read? false (String.ofList text) = some pattern ∧
          pattern.Denotes {whole | ∃ d, Confusables.Linked lists c d ∧
            whole = String.singleton d} ∧
          ∀ d, pattern.matchesText (String.singleton d) = true ↔ Confusables.Linked lists c d) ∧
      (∀ chars, Confusables.Confuses chars → ∀ c ∈ chars, ∃ text pattern,
        (Confusables.none.addAll [chars]).fragment c = some text ∧
          read? false (String.ofList text) = some pattern ∧
          pattern.Denotes {whole | ∃ d ∈ chars, whole = String.singleton d} ∧
          ∀ d, pattern.matchesText (String.singleton d) = true ↔ d ∈ chars) ∧
      ∀ (confusables : Confusables) (u : WordUnit),
        (∀ c, u = .plain [c] → confusables.fragment c = none) → ∃ pattern,
          read? false (String.ofList (unitFragment confusables u)) = some pattern ∧
            pattern.Denotes {String.ofList u.chars} := by
  refine ⟨fun lists c text found => ?_, fun chars confuses c member => ?_,
    fun confusables u unclassed => ?_⟩
  · obtain ⟨pattern, read, denotes⟩ := read?_fragment found
    exact ⟨pattern, read, denotes, matchesText_singleton denotes⟩
  · obtain ⟨text, found⟩ := Confusables.exists_fragment confuses member
    obtain ⟨pattern, read, denotes⟩ := read?_fragment found
    simp only [Confusables.linked_singleton_iff, confuses, member, true_and] at denotes
    exact ⟨text, pattern, found, read, denotes, matchesText_singleton denotes⟩
  · obtain ⟨pattern, read, denotes⟩ := read?_unitFragment confusables u
    have own : {whole : String | List.Forall₂ (· ∈ ·) whole.toList (confusables.choices u)} =
        {String.ofList u.chars} := by
      ext whole
      rw [Set.mem_ofPred_eq, choices_of_unclassed unclassed, forall₂_own_iff,
        Set.mem_singleton_iff, ← String.toList_inj, String.toList_ofList]
    exact ⟨pattern, read, own ▸ denotes⟩

/-- In a class of signs that have a meaning in brackets each stands for itself. -/
theorem fragment_denotes_signs :
    Confusables.Confuses ['-', '^', 'x'] ∧ ∃ text pattern,
      (Confusables.none.addAll [['-', '^', 'x']]).fragment 'x' = some text ∧
        read? false (String.ofList text) = some pattern ∧
        pattern.Denotes {whole | ∃ d ∈ ['-', '^', 'x'], whole = String.singleton d} ∧
        pattern.matchesText "^" = true ∧ pattern.matchesText "y" = false := by
  have confuses : Confusables.Confuses ['-', '^', 'x'] :=
    ⟨'-', by decide, '^', by decide, by decide⟩
  obtain ⟨text, pattern, found, read, denotes, single⟩ :=
    fragment_denotes.2.1 ['-', '^', 'x'] confuses 'x' (by decide)
  refine ⟨confuses, text, pattern, found, read, denotes, (single '^').mpr (by decide), ?_⟩
  exact Bool.eq_false_iff.mpr fun matched => absurd ((single 'y').mp matched) (by decide)

end Word

end Scrutiny
