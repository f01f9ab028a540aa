import Mathlib.Data.List.Basic
import Scrutiny.Word.Confusables

/-! # The classes of a built table

A table holds one pattern for each character. Whatever builder the table comes from, this is the
pattern of the class of the character, which is the last slot of the builder with the character in
it (`Confusables.fragment_eq`).
-/

namespace Scrutiny.Word.Confusables

section Assigning

variable {α : Type} {entries : List (Char × α)} {members : List Char} {value : α} {c d : Char}

/-- Entries of other characters do not matter for the one that is looked up. -/
theorem lookup_filter_of_ne (other : c ≠ d) :
    (entries.filter fun entry => entry.1 != d).lookup c = entries.lookup c := by
  induction entries with
  | nil => rfl
  | cons entry entries ih =>
    obtain ⟨key, value⟩ := entry
    by_cases same : key = d
    · have passed : (c == key) = false := by simpa [same] using other
      rw [List.filter_cons_of_neg (by simp [same]), ih, List.lookup_cons, passed]
    · rw [List.filter_cons_of_pos (by simp [same]), List.lookup_cons, List.lookup_cons, ih]

theorem lookup_assign :
    (assign entries d value).lookup c = if c = d then some value else entries.lookup c := by
  rw [assign]
  split
  · next same => rw [same, List.lookup_cons_self]
  · next other => rw [List.lookup_cons, beq_false_of_ne other, lookup_filter_of_ne other]

/-- Giving several characters a value changes the values of these characters and no others. -/
theorem lookup_assignAll : (assignAll entries members value).lookup c =
    if c ∈ members then some value else entries.lookup c := by
  unfold assignAll
  induction members generalizing entries with
  | nil => rfl
  | cons d members ih =>
    rw [List.foldl_cons, ih, lookup_assign]
    by_cases here : c = d <;> simp [here]

/-- Every character keeps one value at most. -/
theorem nodup_assignAll (nodup : (entries.map Prod.fst).Nodup) :
    ((assignAll entries members value).map Prod.fst).Nodup := by
  unfold assignAll
  induction members generalizing entries with
  | nil => exact nodup
  | cons d members ih =>
    refine ih ?_
    simp only [assign, List.map_cons, List.nodup_cons]
    refine ⟨fun kept => ?_, nodup.sublist (List.filter_sublist.map _)⟩
    obtain ⟨entry, found, same⟩ := List.mem_map.mp kept
    exact bne_iff_ne.mp (List.mem_filter.mp found).2 same

/-- A character is looked up if it is one of the keys. -/
theorem mem_keys : c ∈ entries.map Prod.fst ↔ entries.lookup c ≠ Option.none := by
  rw [Option.ne_none_iff_isSome, List.lookup_isSome_iff, List.mem_map]
  constructor
  · rintro ⟨entry, found, rfl⟩
    exact ⟨entry, found, beq_self_eq_true _⟩
  · rintro ⟨entry, found, same⟩
    exact ⟨entry, found, (eq_of_beq same).symm⟩

end Assigning

section Built

variable {classes : List (List Char)} {fragments : List (Char × List Char)} {c : Char}

/-- Of all classes with a character, the last one gives it its pattern. -/
theorem lookup_fragments (classes : List (List Char)) (fragments : List (Char × List Char)) :
    (classes.foldl (fun fragments members => assignAll fragments members (bracketed members))
        fragments).lookup c =
      ((classes.reverse.find? fun members => members.contains c).map bracketed).or
        (fragments.lookup c) := by
  induction classes generalizing fragments with
  | nil => rfl
  | cons members classes ih =>
    rw [List.foldl_cons, ih, lookup_assignAll, List.reverse_cons, List.find?_append]
    cases classes.reverse.find? fun members => members.contains c with
    | some _ => rfl
    | none =>
      by_cases inside : c ∈ members
      · simp [inside]
      · simp [inside]

/-- Assigning a pattern to all characters of a class keeps the keys different. -/
theorem nodup_fragments (classes : List (List Char))
    (nodup : (fragments.map Prod.fst).Nodup) :
    ((classes.foldl (fun fragments members => assignAll fragments members (bracketed members))
      fragments).map Prod.fst).Nodup := by
  induction classes generalizing fragments with
  | nil => exact nodup
  | cons members classes ih => exact ih (nodup_assignAll nodup)

/-- The class of a character. -/
def classOf (confusables : Confusables) (c : Char) : Option (List Char) :=
  confusables.builder.slots.reverse.find? fun members => members.contains c

variable {confusables : Confusables} {members : List Char}

/-- The class of a character is in one of the slots, with the character in it. -/
theorem mem_of_classOf (found : confusables.classOf c = some members) :
    members ∈ confusables.builder.slots ∧ c ∈ members := by
  refine ⟨List.mem_reverse.mp (List.mem_of_find?_eq_some found), ?_⟩
  simpa using List.find?_some found

/-- The pattern that a table holds for a character is that of its class. -/
theorem fragment_eq (confusables : Confusables) (c : Char) :
    confusables.fragment c = (confusables.classOf c).map bracketed := by
  -- The empty slots, which are left out when a table is built, have no character in them.
  have filled : (fun members : List Char => decide ((!members.isEmpty) = true ∧
      members.contains c = true)) = fun members => members.contains c := by
    funext members
    cases members <;> simp
  rw [fragment, confusables.fragments_eq, Builder.build, lookup_fragments, ← List.filter_reverse,
    List.find?_filter, filled, List.lookup_nil, Option.or_none, classOf]

/-- The size of a table is the number of characters that have a pattern. -/
theorem size_eq_of_mem_iff {covered : List Char} (nodup : covered.Nodup)
    (same : ∀ c, c ∈ covered ↔ confusables.fragment c ≠ Option.none) :
    confusables.size = covered.length := by
  have keys : (confusables.fragments.map Prod.fst).Nodup := by
    rw [confusables.fragments_eq]
    exact nodup_fragments _ .nil
  rw [size, ← List.length_map Prod.fst]
  refine List.Perm.length_eq ((List.perm_ext_iff_of_nodup keys nodup).mpr fun c => ?_)
  rw [same, mem_keys]
  rfl

end Built

end Scrutiny.Word.Confusables
