import Scrutiny.Proofs.Word.Classes
import Scrutiny.Proofs.Word.Components

/-! # Slots that are merged

A builder keeps classes in slots, with an index from characters to slots. A grouping just has
classes. The builder holds the classes of the grouping (`Confusables.Builder.Holds`): what its slots
hold, where they hold anything, are the classes, and the index says of every character which slot it
is in. Adding a list to both keeps this (`Holds.addClass`): one slot takes the list and all that the
list touches, the slots it takes from are left empty, and the index is put right for all that this
slot now holds. So a table that is built from lists has the connected components of the lists for
classes (`fragment_components`).
-/

namespace Scrutiny.Word.Confusables

namespace Builder

/-- The slots of a builder hold the classes of a grouping, and the index says which slot a character
is in. -/
structure Holds (builder : Builder) (grouping : Grouping) : Prop where
  ascending : ∀ place, (slotAt builder.slots place).Pairwise (· < ·)
  classes : ∀ members, members ∈ grouping.classes ↔
    members ≠ [] ∧ ∃ place, slotAt builder.slots place = members
  index : ∀ c place, builder.index.lookup c = some place ↔ c ∈ slotAt builder.slots place

section Slots

variable {slots : List (List Char)} {target other place : Nat} {others : List Nat}

/-- An empty slot at the end holds what no slot holds. -/
theorem slotAt_append_empty (slots : List (List Char)) (place : Nat) :
    slotAt (slots ++ [[]]) place = slotAt slots place := by
  simp only [slotAt, List.getD_eq_getElem?_getD, List.getElem?_append]
  split
  · rfl
  · next outside =>
    rw [List.getElem?_eq_none (not_lt.mp outside)]
    cases place - slots.length <;> rfl

/-- A changed slot holds what it is changed to, the others what they did. -/
theorem slotAt_modify (inside : target < slots.length) (change : List Char → List Char) :
    slotAt (slots.modify target change) place =
      if place = target then change (slotAt slots target) else slotAt slots place := by
  simp only [slotAt, List.getD_eq_getElem?_getD, List.getElem?_modify]
  by_cases same : place = target
  · subst same
    simp [List.getElem?_eq_getElem inside]
  · simp [same, Ne.symm same]

/-- A slot that is emptied holds nothing, the others what they did. -/
theorem slotAt_set_empty : slotAt (slots.set other []) place =
    if place = other then [] else slotAt slots place := by
  simp only [slotAt, List.getD_eq_getElem?_getD, List.getElem?_set]
  by_cases same : place = other
  · subst same
    by_cases inside : place < slots.length <;> simp [inside]
  · simp [same, Ne.symm same]

/-- Merging leaves the number of slots as it is. -/
theorem length_merge : (merge target slots other).length = slots.length := by
  simp [merge]

/-- Merging moves what one slot holds to another, and leaves it empty. -/
theorem slotAt_merge (inside : target < slots.length) (apart : target ≠ other) :
    slotAt (merge target slots other) place =
      if place = target then unite (slotAt slots target) (slotAt slots other)
      else if place = other then [] else slotAt slots place := by
  rw [merge, slotAt_modify (by simpa using inside), slotAt_set_empty, slotAt_set_empty,
    if_neg apart]

/-- Merging moves everything that the other slots hold into one, and leaves them empty. -/
theorem slotAt_foldl_merge (inside : target < slots.length) (apart : target ∉ others)
    (once : others.Nodup) : slotAt (others.foldl (merge target) slots) place =
      if place = target then unite (slotAt slots target) (others.flatMap (slotAt slots))
      else if place ∈ others then [] else slotAt slots place := by
  induction others generalizing slots with
  | nil =>
    split
    · next same => rw [same]; rfl
    · rfl
  | cons other others ih =>
    obtain ⟨different, apart⟩ := not_or.mp (mt List.mem_cons.mpr apart)
    obtain ⟨fresh, once⟩ := List.nodup_cons.mp once
    have kept : others.flatMap (slotAt (merge target slots other)) =
        others.flatMap (slotAt slots) := by
      refine List.flatMap_congr fun place member => ?_
      have off : place ≠ target := fun same => apart (same ▸ member)
      have away : place ≠ other := fun same => fresh (same ▸ member)
      rw [slotAt_merge inside different, if_neg off, if_neg away]
    rw [List.foldl_cons, ih (length_merge.symm ▸ inside) apart once, kept,
      slotAt_merge inside different, if_pos rfl, slotAt_merge inside different, unite_append,
      ← List.flatMap_cons]
    by_cases here : place = target
    · rw [if_pos here, if_pos here]
    · simp only [if_neg here, List.mem_cons]
      by_cases same : place = other <;> simp [same]

/-- Gathering moves what several slots hold to one, with the characters of a list. -/
theorem slotAt_gather (inside : target < slots.length) (apart : target ∉ others)
    (once : others.Nodup) (chars : List Char) : slotAt (gather slots target others chars) place =
      if place = target then
        unite (slotAt slots target) (others.flatMap (slotAt slots) ++ chars)
      else if place ∈ others then [] else slotAt slots place := by
  have length : (others.foldl (merge target) slots).length = slots.length := by
    clear apart once
    induction others generalizing slots with
    | nil => rfl
    | cons other others ih =>
      rw [List.foldl_cons, ih (length_merge.symm ▸ inside), length_merge]
  rw [gather, slotAt_modify (length ▸ inside), slotAt_foldl_merge inside apart once,
    slotAt_foldl_merge inside apart once, if_pos rfl, unite_append]
  by_cases here : place = target
  · rw [if_pos here, if_pos here]
  · simp only [if_neg here]

/-- A class that is not empty is at some place if a slot holds it. -/
theorem mem_slots {members : List Char} (filled : members ≠ []) :
    members ∈ slots ↔ ∃ place, slotAt slots place = members := by
  simp only [slotAt, List.getD_eq_getElem?_getD]
  constructor
  · intro member
    obtain ⟨place, found⟩ := List.mem_iff_getElem?.mp member
    exact ⟨place, by rw [found, Option.getD_some]⟩
  · rintro ⟨place, rfl⟩
    cases found : slots[place]? with
    | none =>
      rw [found] at filled
      exact absurd rfl filled
    | some held => exact List.mem_iff_getElem?.mpr ⟨place, found⟩

end Slots

section Adding

variable {builder : Builder} {grouping : Grouping} {chars : List Char} {place : Nat} {c d : Char}

theorem holds_empty : empty.Holds .none where
  ascending _ := .nil
  classes members := by
    refine iff_of_false List.not_mem_nil ?_
    rintro ⟨filled, place, rfl⟩
    exact filled rfl
  index c place := iff_of_false nofun List.not_mem_nil

/-- No character is in two slots. -/
theorem Holds.unique (holds : builder.Holds grouping) {other : Nat}
    (here : c ∈ slotAt builder.slots place) (there : c ∈ slotAt builder.slots other) :
    place = other := by
  rw [← holds.index] at here there
  exact Option.some.inj (here.symm.trans there)

/-- A slot is touched if it holds a character of the list. -/
theorem Holds.mem_touched (holds : builder.Holds grouping) :
    place ∈ builder.touched (Confusables.ascending chars) ↔
      ∃ c ∈ chars, c ∈ slotAt builder.slots place := by
  simp only [touched, mem_ascending, List.mem_filterMap, holds.index]

/-- The joined class is the list with what the touched slots hold. -/
theorem Holds.mem_joined (holds : builder.Holds grouping) :
    d ∈ grouping.joined chars ↔ d ∈ chars ∨
      ∃ place ∈ builder.touched (Confusables.ascending chars), d ∈ slotAt builder.slots place := by
  rw [Grouping.mem_joined]
  refine or_congr_right ⟨?_, ?_⟩
  · rintro ⟨members, member, ⟨c, shared, here⟩, inside⟩
    obtain ⟨-, place, rfl⟩ := (holds.classes members).mp member
    exact ⟨place, holds.mem_touched.mpr ⟨c, shared, here⟩, inside⟩
  · rintro ⟨place, member, inside⟩
    refine ⟨_, (holds.classes _).mpr ⟨List.ne_nil_of_mem inside, place, rfl⟩, ?_, inside⟩
    exact holds.mem_touched.mp member

/-- One slot takes the joined class, and nothing else keeps what it takes. -/
theorem Holds.slotAt_gather (holds : builder.Holds grouping) (chars : List Char)
    {slots : List (List Char)} {target : Nat} {others : List Nat}
    (same : slotAt slots = slotAt builder.slots)
    (inside : target < slots.length) (apart : target ∉ others) (once : others.Nodup)
    (own : target ∈ builder.touched (Confusables.ascending chars) ∨
      slotAt builder.slots target = [])
    (rest : ∀ place, place ≠ target →
      (place ∈ others ↔ place ∈ builder.touched (Confusables.ascending chars))) (place : Nat) :
    slotAt (gather slots target others (Confusables.ascending chars)) place =
      if place = target then grouping.joined chars
      else if place ∈ builder.touched (Confusables.ascending chars) then []
      else slotAt builder.slots place := by
  rw [Builder.slotAt_gather inside apart once, same]
  by_cases here : place = target
  · rw [if_pos here, if_pos here]
    -- Two ascending lists with the same members are one.
    refine (pairwise_unite (holds.ascending target)).eq_of_mem_iff (pairwise_ascending _)
      fun d => ?_
    rw [holds.mem_joined, mem_unite, List.mem_append, List.mem_flatMap, mem_ascending]
    constructor
    · rintro (inner | ⟨other, member, inner⟩ | shared)
      · rcases own with touched | vacant
        · exact .inr ⟨target, touched, inner⟩
        · exact absurd (vacant ▸ inner) List.not_mem_nil
      · exact .inr ⟨other, (rest other fun same => apart (same ▸ member)).mp member, inner⟩
      · exact .inl shared
    · rintro (shared | ⟨other, touched, inner⟩)
      · exact .inr (.inr shared)
      by_cases first : other = target
      · exact .inl (first ▸ inner)
      · exact .inr (.inl ⟨other, (rest other first).mpr touched, inner⟩)
  · simp only [if_neg here, rest place here]

/-- What a list of characters does to the slots and to the index of a builder: one slot takes the
joined class. -/
structure Moves (builder : Builder) (grouping : Grouping) (chars : List Char) (target : Nat)
    (next : Builder) : Prop where
  own : target ∈ builder.touched (Confusables.ascending chars) ∨ slotAt builder.slots target = []
  slots : ∀ place, slotAt next.slots place =
    if place = target then grouping.joined chars
    else if place ∈ builder.touched (Confusables.ascending chars) then []
    else slotAt builder.slots place
  index : next.index = assignAll builder.index (grouping.joined chars) target

/-- Adding a list moves what it touches into one slot. -/
theorem Holds.exists_moves (holds : builder.Holds grouping) (confuses : Confuses chars) :
    ∃ target, builder.Moves grouping chars target (builder.addClass chars) := by
  have enough : ¬ (Confusables.ascending chars).length < 2 :=
    not_lt.mpr (two_le_length_ascending.mpr confuses)
  cases found : builder.touched (Confusables.ascending chars) with
  | nil =>
    -- A list that touches no slot gets one of its own at the end.
    have vacant : slotAt builder.slots builder.slots.length = [] := by
      rw [slotAt, List.getD_eq_getElem?_getD, List.getElem?_eq_none (Nat.le_refl _)]
      rfl
    have gathered := holds.slotAt_gather chars (funext (slotAt_append_empty builder.slots))
      (List.length_append.symm ▸ Nat.lt_succ_self _) List.not_mem_nil .nil (.inr vacant)
      fun place _ => by rw [found]
    refine ⟨builder.slots.length, .inr vacant, ?_, ?_⟩
    · simpa only [addClass, if_neg enough, found] using gathered
    · simp only [addClass, if_neg enough, found, gathered, if_pos]
  | cons target others =>
    -- Otherwise the first slot that it touches takes the class, and the others are emptied.
    have sorted : (target :: others).Pairwise (· < ·) := found ▸ pairwise_ascending _
    obtain ⟨apart, once⟩ := List.nodup_cons.mp sorted.nodup
    have first : target ∈ builder.touched (Confusables.ascending chars) := by
      rw [found]
      exact List.mem_cons_self
    have inside : target < builder.slots.length := by
      obtain ⟨c, -, held⟩ := holds.mem_touched.mp first
      by_contra outside
      rw [slotAt, List.getD_eq_getElem?_getD, List.getElem?_eq_none (not_lt.mp outside)] at held
      exact List.not_mem_nil held
    have gathered := holds.slotAt_gather chars rfl inside apart once (.inl first)
      fun place other => by
        rw [found, List.mem_cons, or_iff_right other]
    refine ⟨target, .inl first, ?_, ?_⟩
    · simpa only [addClass, if_neg enough, found] using gathered
    · simp only [addClass, if_neg enough, found, gathered, if_pos]

namespace Moves

variable {target : Nat} {next : Builder}

theorem ascending (moves : builder.Moves grouping chars target next)
    (holds : builder.Holds grouping) (place : Nat) :
    (slotAt next.slots place).Pairwise (· < ·) := by
  rw [moves.slots]
  split
  · exact pairwise_ascending _
  split
  · exact .nil
  · exact holds.ascending place

/-- The slots that are not touched keep their classes, and the target holds the joined one. -/
theorem classes (moves : builder.Moves grouping chars target next)
    (holds : builder.Holds grouping) (confuses : Confuses chars) (members : List Char) :
    members ∈ (grouping.add chars).classes ↔
      members ≠ [] ∧ ∃ place, slotAt next.slots place = members := by
  rw [Grouping.mem_classes_add confuses, holds.classes]
  constructor
  · rintro (⟨⟨filled, place, rfl⟩, free⟩ | rfl)
    · have untouched : place ∉ builder.touched (Confusables.ascending chars) := fun member => by
        obtain ⟨c, shared, held⟩ := holds.mem_touched.mp member
        exact free c shared held
      have off : place ≠ target := by
        rintro rfl
        exact moves.own.elim untouched filled
      exact ⟨filled, place, by rw [moves.slots, if_neg off, if_neg untouched]⟩
    · obtain ⟨c, shared, -⟩ := confuses
      exact ⟨List.ne_nil_of_mem (holds.mem_joined.mpr (.inl shared)), target,
        by rw [moves.slots, if_pos rfl]⟩
  · rintro ⟨filled, place, rfl⟩
    rw [moves.slots] at filled ⊢
    by_cases here : place = target
    · exact .inr (if_pos here)
    rw [if_neg here] at filled ⊢
    by_cases member : place ∈ builder.touched (Confusables.ascending chars)
    · exact absurd (if_pos member) filled
    rw [if_neg member] at filled ⊢
    refine .inl ⟨⟨filled, place, rfl⟩, fun c shared held => ?_⟩
    exact member (holds.mem_touched.mpr ⟨c, shared, held⟩)

/-- The index is right for what has moved and for what has stayed. -/
theorem lookup (moves : builder.Moves grouping chars target next)
    (holds : builder.Holds grouping) (c : Char) (place : Nat) :
    next.index.lookup c = some place ↔ c ∈ slotAt next.slots place := by
  rw [moves.index, lookup_assignAll, moves.slots]
  by_cases moved : c ∈ grouping.joined chars
  · rw [if_pos moved, Option.some_inj]
    by_cases here : place = target
    · rw [if_pos here]
      exact iff_of_true here.symm moved
    rw [if_neg here]
    refine iff_of_false (Ne.symm here) fun held => ?_
    -- Apart from the target, no slot keeps a character that has moved.
    split at held
    · exact List.not_mem_nil held
    · next untouched =>
      rcases holds.mem_joined.mp moved with shared | ⟨other, member, inside⟩
      · exact untouched (holds.mem_touched.mpr ⟨c, shared, held⟩)
      · exact untouched (holds.unique held inside ▸ member)
  · rw [if_neg moved, holds.index]
    have stayed (held : c ∈ slotAt builder.slots place) :
        place ∉ builder.touched (Confusables.ascending chars) := fun member =>
      moved (holds.mem_joined.mpr (.inr ⟨place, member, held⟩))
    by_cases here : place = target
    · rw [if_pos here]
      refine iff_of_false (fun held => ?_) moved
      rcases moves.own with member | vacant
      · exact stayed held (here ▸ member)
      · exact List.not_mem_nil (vacant ▸ here ▸ held)
    rw [if_neg here]
    split
    · next member => exact iff_of_false (fun held => stayed held member) List.not_mem_nil
    · exact Iff.rfl

end Moves

/-- Adding a list to a builder joins the classes that it holds. -/
theorem Holds.addClass (holds : builder.Holds grouping) (chars : List Char) :
    (builder.addClass chars).Holds (grouping.add chars) := by
  by_cases confuses : Confuses chars
  · obtain ⟨target, moves⟩ := holds.exists_moves confuses
    exact ⟨moves.ascending holds, moves.classes holds confuses, moves.lookup holds⟩
  · have few : (Confusables.ascending chars).length < 2 :=
      not_le.mp (mt two_le_length_ascending.mp confuses)
    rw [Grouping.add_of_not_confuses confuses, Builder.addClass, if_pos few]
    exact holds

/-- However many lists are added, the builder holds the classes that they are joined to. -/
theorem Holds.addAll (holds : builder.Holds grouping) (lists : List (List Char)) :
    (builder.addAll lists).Holds (grouping.addAll lists) := by
  induction lists generalizing builder grouping with
  | nil => exact holds
  | cons chars lists ih => exact ih (holds.addClass chars)

end Adding

end Builder

section Built

variable {confusables : Confusables} {grouping : Grouping} {c : Char} {members : List Char}

/-- In a table whose builder holds a grouping, the class of a character is its class there. -/
theorem Builder.Holds.classOf_eq_some (holds : confusables.builder.Holds grouping) :
    confusables.classOf c = some members ↔ members ∈ grouping.classes ∧ c ∈ members := by
  constructor
  · intro found
    obtain ⟨member, inside⟩ := mem_of_classOf found
    have filled := List.ne_nil_of_mem inside
    exact ⟨(holds.classes members).mpr ⟨filled, (Builder.mem_slots filled).mp member⟩, inside⟩
  · rintro ⟨member, inside⟩
    obtain ⟨filled, place, rfl⟩ := (holds.classes members).mp member
    cases found : confusables.classOf c with
    | none =>
      have outside := List.find?_eq_none.mp found _
        (List.mem_reverse.mpr ((Builder.mem_slots filled).mpr ⟨place, rfl⟩))
      exact absurd (List.contains_iff_mem.mpr inside) outside
    | some others =>
      obtain ⟨member', inside'⟩ := mem_of_classOf found
      obtain ⟨other, rfl⟩ := (Builder.mem_slots (List.ne_nil_of_mem inside')).mp member'
      rw [holds.unique inside' inside]

/-- A table made from lists holds the classes that the lists gather. -/
theorem holds_addAll (lists : List (List Char)) :
    (none.addAll lists).builder.Holds (Grouping.none.addAll lists) :=
  Builder.holds_empty.addAll lists

/-- A table that is built from lists has the classes of their grouping. -/
theorem classOf_addAll (lists : List (List Char)) (c : Char) :
    (none.addAll lists).classOf c = (Grouping.none.addAll lists).classOf c := by
  refine Option.ext fun members => ?_
  rw [(holds_addAll lists).classOf_eq_some, (Grouping.gathers_addAll lists).classOf_eq_some]

/-- A character has no class of its own if nothing is linked to it. -/
theorem fragment_eq_none (lists : List (List Char)) (c : Char) :
    (none.addAll lists).fragment c = Option.none ↔ ¬ Linked lists c c := by
  rw [fragment_eq, Option.map_eq_none_iff, classOf_addAll,
    (Grouping.gathers_addAll lists).classOf_eq_none]

/-- A character with a fragment has it from the class of what is linked with it. -/
theorem exists_members {lists : List (List Char)} {text : List Char}
    (found : (none.addAll lists).fragment c = some text) :
    ∃ members, text = bracketed members ∧
      (Grouping.none.addAll lists).classOf c = some members ∧ members.Pairwise (· < ·) ∧
      ∀ d, d ∈ members ↔ Linked lists c d := by
  rw [fragment_eq, classOf_addAll] at found
  obtain ⟨members, classed, rfl⟩ := Option.map_eq_some_iff.mp found
  exact ⟨members, rfl, classed, (Grouping.gathers_addAll lists).mem_classOf classed⟩

/-- The size of a table is the number of characters that the lists cover. -/
theorem size_addAll (lists : List (List Char)) :
    (none.addAll lists).size = (covered lists).length := by
  refine size_eq_of_mem_iff (List.nodup_dedup _) fun c => ?_
  exact mem_covered.trans (not_not.symm.trans (fragment_eq_none lists c).not.symm)

/-- **Classes are connected components.** Whatever lists are added to an empty table, two characters
have the same fragment exactly if a chain of lists links them; a character that no list confuses
with another has none; a fragment lists what its character is linked with, in order and each in
escaped form; the size is the number of characters that are confused with others. So the table is
the same for all lists that have the same characters, however often and in whatever order. -/
theorem fragment_components (lists : List (List Char)) :
    (∀ c d, (∃ text, (none.addAll lists).fragment c = some text ∧
          (none.addAll lists).fragment d = some text) ↔ Linked lists c d) ∧
      (∀ c, (none.addAll lists).fragment c = Option.none ↔
        ∀ chars ∈ lists, Confuses chars → c ∉ chars) ∧
      (∀ c text, (none.addAll lists).fragment c = some text → ∃ members,
        text = '[' :: (Pattern.escapeChars members ++ [']']) ∧
          members.Pairwise (· < ·) ∧ ∀ d, d ∈ members ↔ Linked lists c d) ∧
      (none.addAll lists).size = (covered lists).length ∧
      ∀ others : List (List Char),
        (∀ chars ∈ lists, ∃ chars' ∈ others, ∀ c, c ∈ chars ↔ c ∈ chars') →
        (∀ chars' ∈ others, ∃ chars ∈ lists, ∀ c, c ∈ chars ↔ c ∈ chars') →
          (none.addAll others).fragment = (none.addAll lists).fragment ∧
            (none.addAll others).size = (none.addAll lists).size := by
  refine ⟨fun c d => ⟨?_, fun linked => ?_⟩, fun c => ?_, fun c text found => ?_,
    size_addAll lists, fun others into onto => ?_⟩
  · rintro ⟨text, one, other⟩
    obtain ⟨members, rfl, -, -, linked⟩ := exists_members one
    obtain ⟨members', same, classed, -⟩ := exists_members other
    obtain rfl := bracketed_injective same
    exact (linked d).mp ((Grouping.gathers_addAll lists).classOf_eq_some.mp classed).2
  · obtain ⟨members, member, one, other⟩ := ((Grouping.gathers_addAll lists).linked c d).mp linked
    refine ⟨bracketed members, ?_, ?_⟩
    · rw [fragment_eq, (holds_addAll lists).classOf_eq_some.mpr ⟨member, one⟩, Option.map_some]
    · rw [fragment_eq, (holds_addAll lists).classOf_eq_some.mpr ⟨member, other⟩, Option.map_some]
  · rw [fragment_eq_none, linked_self_iff]
    simp only [not_exists, not_and]
  · obtain ⟨members, whole, -, linked⟩ := exists_members found
    exact ⟨members, whole, linked⟩
  · have linked : Linked others = Linked lists := linked_congr into onto
    refine ⟨funext fun c => ?_, ?_⟩
    · rw [fragment_eq, fragment_eq, classOf_addAll, classOf_addAll,
        (Grouping.gathers_addAll others).classOf_congr (Grouping.gathers_addAll lists) linked]
    · have covers : ∀ c, c ∈ covered others ↔ c ∈ covered lists := fun c => by
        rw [mem_covered, mem_covered, linked]
      rw [size_addAll, size_addAll]
      exact ((List.perm_ext_iff_of_nodup (List.nodup_dedup _) (List.nodup_dedup _)).mpr
        covers).length_eq

end Built

end Scrutiny.Word.Confusables
