import Mathlib.Computability.Language
import Scrutiny.Proofs.Pattern.Meaning

/-! # Languages of patterns

A pattern that asks for characters and for nothing around them spells a language: wherever it stands
in a text it matches the texts of the language and no others (`Pattern.Spells`). The language of a
pattern is put together from those of its parts. A pattern between the start and the end of a text
is found in the texts of its language (`Pattern.Spells.matchesText_iff`).
-/

namespace Scrutiny.Pattern

/-- Wherever it stands in a text, a pattern matches the texts of a language. -/
def Spells (pattern : Pattern) (language : Language Char) : Prop :=
  ∀ before rest last, pattern.Matches (before ++ rest).toArray before.length last ↔
    ∃ cs after, rest = cs ++ after ∧ last = before.length + cs.length ∧ cs ∈ language

/-- The texts of one character of a set. -/
def CharSet.language (set : CharSet) : Language Char :=
  {cs | ∃ c, set.has c = true ∧ cs = [c]}

/-- The texts made of at least some number of texts of a language, and of at most another number of
them if there is a limit. -/
def repeated (least : Nat) (most : Option Nat) (language : Language Char) : Language Char :=
  {cs | ∃ parts : List (List Char), least ≤ parts.length ∧
    (∀ limit, most = some limit → parts.length ≤ max least limit) ∧
      (∀ part ∈ parts, part ∈ language) ∧ cs = parts.flatten}

/-- After some characters comes the first of the others. -/
theorem getElem?_length (before rest : List Char) :
    (before ++ rest).toArray[before.length]? = rest.head? := by
  rw [List.getElem?_toArray, List.getElem?_append_right (Nat.le_refl _), Nat.sub_self,
    List.head?_eq_getElem?]

namespace Spells

theorem empty : Pattern.empty.Spells 1 := by
  intro before rest last
  constructor
  · intro same
    exact ⟨[], rest, rfl, same.symm, rfl⟩
  · rintro ⟨cs, after, -, rfl, none⟩
    obtain rfl : cs = [] := none
    rfl

/-- A set spells the texts of one of its characters. -/
theorem one (set : CharSet) : (Pattern.one set).Spells set.language := by
  intro before rest last
  simp only [Matches, getElem?_length]
  constructor
  · rintro ⟨⟨c, here, member⟩, rfl⟩
    obtain ⟨after, rfl⟩ := List.head?_eq_some_iff.mp here
    exact ⟨[c], after, rfl, rfl, c, member, rfl⟩
  · rintro ⟨_, after, rfl, rfl, c, member, rfl⟩
    exact ⟨⟨c, rfl, member⟩, rfl⟩

/-- After a text of a language a pattern goes on from the end of that text. -/
theorem after {pattern : Pattern} {language : Language Char} (spells : pattern.Spells language)
    (before cs rest : List Char) (last : Nat) :
    pattern.Matches (before ++ (cs ++ rest)).toArray (before.length + cs.length) last ↔
      ∃ more after, rest = more ++ after ∧ last = before.length + cs.length + more.length ∧
        more ∈ language := by
  rw [← List.append_assoc, ← List.length_append]
  exact spells (before ++ cs) rest last

/-- Patterns in a row spell the texts that are put together of theirs. -/
theorem seq {left right : Pattern} {one two : Language Char} (first : left.Spells one)
    (second : right.Spells two) : (left.seq right).Spells (one * two) := by
  intro before rest last
  constructor
  · rintro ⟨middle, head, tail⟩
    obtain ⟨cs, rest, rfl, rfl, member⟩ := (first before rest middle).mp head
    obtain ⟨more, after, rfl, rfl, further⟩ := (second.after before cs rest last).mp tail
    refine ⟨cs ++ more, after, (List.append_assoc _ _ _).symm, ?_, ?_⟩
    · rw [List.length_append, Nat.add_assoc]
    · exact Language.append_mem_mul member further
  · rintro ⟨_, after, rfl, rfl, cs, member, more, further, rfl⟩
    rw [List.append_assoc, List.length_append, ← Nat.add_assoc]
    refine ⟨before.length + cs.length, ?_, ?_⟩
    · exact (first before _ _).mpr ⟨cs, more ++ after, rfl, rfl, member⟩
    · exact (second.after before cs _ _).mpr ⟨more, after, rfl, rfl, further⟩

/-- Patterns one after the other spell the product of their languages. -/
theorem seqAll {patterns : List Pattern} {languages : List (Language Char)}
    (spells : List.Forall₂ Spells patterns languages) :
    (Pattern.seqAll patterns).Spells languages.prod := by
  induction spells with
  | nil => exact empty
  | @cons pattern language patterns languages first others ih =>
    intro before rest last
    rw [matches_seqAll_cons, List.prod_cons]
    exact seq first ih before rest last

/-- A number of rounds match as many texts of the language. -/
theorem leads {pattern : Pattern} {language : Language Char} (spells : pattern.Spells language)
    (count : Nat) (before rest : List Char) (last : Nat) :
    Leads (pattern.Matches (before ++ rest).toArray) count before.length last ↔
      ∃ parts : List (List Char), parts.length = count ∧ (∀ part ∈ parts, part ∈ language) ∧
        ∃ after, rest = parts.flatten ++ after ∧
          last = before.length + parts.flatten.length := by
  induction count generalizing before rest with
  | zero =>
    constructor
    · intro same
      exact ⟨[], rfl, fun _ none => absurd none List.not_mem_nil, rest, rfl, same.symm⟩
    · rintro ⟨parts, none, -, -, -, rfl⟩
      rw [List.eq_nil_of_length_eq_zero none]
      rfl
  | succ count ih =>
    constructor
    · rintro ⟨middle, head, tail⟩
      obtain ⟨cs, rest, rfl, rfl, member⟩ := (spells before rest middle).mp head
      -- The other rounds are made in the text that goes on after this one.
      rw [← List.append_assoc, ← List.length_append] at tail
      obtain ⟨parts, rfl, members, after, rfl, rfl⟩ := (ih (before ++ cs) rest).mp tail
      refine ⟨cs :: parts, rfl, List.forall_mem_cons.mpr ⟨member, members⟩, after, ?_, ?_⟩
      · rw [List.flatten_cons, List.append_assoc]
      · rw [List.flatten_cons, List.length_append, List.length_append, Nat.add_assoc]
    · rintro ⟨parts, counted, members, after, rfl, rfl⟩
      obtain ⟨cs, parts, rfl⟩ := List.exists_cons_of_length_eq_add_one counted
      obtain ⟨member, members⟩ := List.forall_mem_cons.mp members
      rw [List.flatten_cons, List.append_assoc]
      refine ⟨before.length + cs.length, (spells before _ _).mpr ⟨cs, _, rfl, rfl, member⟩, ?_⟩
      rw [← List.append_assoc, ← List.length_append]
      refine (ih (before ++ cs) _).mpr ⟨parts, Nat.succ.inj counted, members, after, rfl, ?_⟩
      rw [List.flatten_cons, List.length_append, List.length_append, Nat.add_assoc]

/-- A repetition spells what is put together of as many texts as it may have rounds. -/
theorem rep {pattern : Pattern} {language : Language Char} (spells : pattern.Spells language)
    (least : Nat) (most : Option Nat) (greedy : Bool) :
    (Pattern.rep least most greedy pattern).Spells (repeated least most language) := by
  intro before rest last
  constructor
  · rintro ⟨count, many, few, rounds⟩
    obtain ⟨parts, rfl, members, after, rfl, rfl⟩ := (spells.leads count before rest last).mp rounds
    exact ⟨parts.flatten, after, rfl, rfl, parts, many, few, members, rfl⟩
  · rintro ⟨_, after, rfl, rfl, parts, many, few, members, rfl⟩
    refine ⟨parts.length, many, few, (spells.leads _ before _ _).mpr ?_⟩
    exact ⟨parts, rfl, members, after, rfl, rfl⟩

/-- Between the start and the end of a text patterns are found in the texts of their language. -/
theorem matchesText_iff {patterns : List Pattern} {language : Language Char}
    (spells : (Pattern.seqAll patterns).Spells language) (text : String) :
    (Pattern.seqAll (.assertion .textStart :: patterns ++ [.assertion .textEnd])).matchesText text =
      true ↔ text.toList ∈ language := by
  rw [matchesText, find?_whole]
  refine (spells [] text.toList text.toList.length).trans ?_
  constructor
  · rintro ⟨cs, after, whole, length, member⟩
    rw [whole, List.length_append, List.length_nil, Nat.zero_add] at length
    obtain rfl : after = [] := List.eq_nil_of_length_eq_zero (by omega)
    rwa [whole, List.append_nil]
  · intro member
    exact ⟨text.toList, [], (List.append_nil _).symm, (Nat.zero_add _).symm, member⟩

end Spells

/-- Where the texts of a language are written for values of some kind, its repetitions are written
for rows of such values. -/
theorem mem_repeated_image {α : Type} {write : α → List Char} {chosen : α → Prop}
    {language : Language Char} (made : ∀ cs, cs ∈ language ↔ ∃ a, chosen a ∧ cs = write a)
    {least : Nat} {cs : List Char} :
    cs ∈ repeated least none language ↔ ∃ values : List α,
      least ≤ values.length ∧ (∀ a ∈ values, chosen a) ∧ cs = values.flatMap write := by
  constructor
  · rintro ⟨parts, many, -, members, rfl⟩
    have written : ∃ values : List α, parts = values.map write ∧ ∀ a ∈ values, chosen a := by
      clear many
      induction parts with
      | nil => exact ⟨[], rfl, fun _ none => absurd none List.not_mem_nil⟩
      | cons part parts ih =>
        obtain ⟨member, others⟩ := List.forall_mem_cons.mp members
        obtain ⟨a, here, rfl⟩ := (made part).mp member
        obtain ⟨values, rfl, all⟩ := ih others
        exact ⟨a :: values, rfl, List.forall_mem_cons.mpr ⟨here, all⟩⟩
    obtain ⟨values, rfl, all⟩ := written
    rw [List.length_map] at many
    exact ⟨values, many, all, List.flatMap_def.symm⟩
  · rintro ⟨values, many, all, rfl⟩
    refine ⟨values.map write, by rwa [List.length_map], nofun, ?_, List.flatMap_def⟩
    intro part member
    obtain ⟨a, inside, rfl⟩ := List.mem_map.mp member
    exact (made _).mpr ⟨a, all a inside, rfl⟩

/-- Repeated characters of a set are a text of such characters. -/
theorem mem_repeated_language {least : Nat} {set : CharSet} {cs : List Char} :
    cs ∈ repeated least none set.language ↔ least ≤ cs.length ∧ ∀ c ∈ cs, set.has c = true := by
  refine (mem_repeated_image fun _ => Iff.rfl).trans ?_
  simp only [List.flatMap_singleton', exists_eq_right', ← and_assoc]

end Scrutiny.Pattern
