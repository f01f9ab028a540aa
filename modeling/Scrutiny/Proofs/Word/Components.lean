import Mathlib.Data.Char
import Mathlib.Data.List.Dedup
import Mathlib.Data.List.Pairwise
import Mathlib.Data.List.Sort
import Mathlib.Logic.Relation
import Scrutiny.Proofs.Pattern.Fragment
import Scrutiny.Word.Confusables

/-! # Classes of confusable characters as connected components

A list that confuses two or more characters links them, and so do several lists that share
characters, one with the next. What is linked in this way forms the classes of a grouping: adding a
list joins the classes that it touches and leaves the others as they are
(`Confusables.Grouping.Gathers.add`). So whatever the order of the lists, the classes are the
connected components. A grouping has no slots and no index. That the builder of a table holds the
classes of a grouping is shown elsewhere (`Confusables.Builder.Holds`).
-/

namespace Scrutiny.Word.Confusables

/-- A list has two different characters. -/
def Confuses (chars : List Char) : Prop :=
  ∃ c ∈ chars, ∃ d ∈ chars, c ≠ d

instance (chars : List Char) : Decidable (Confuses chars) :=
  inferInstanceAs (Decidable (∃ c ∈ chars, ∃ d ∈ chars, c ≠ d))

/-- One of several lists confuses two characters. -/
def Together (lists : List (List Char)) (c d : Char) : Prop :=
  ∃ chars ∈ lists, Confuses chars ∧ c ∈ chars ∧ d ∈ chars

/-- A chain of lists leads from one character to another, each list sharing a character with the
next. -/
def Linked (lists : List (List Char)) : Char → Char → Prop :=
  Relation.TransGen (Together lists)

/-- The characters that one of several lists confuses with others, each once. -/
def covered (lists : List (List Char)) : List Char :=
  (lists.filter fun chars => Confuses chars).flatten.dedup

section Ordered

variable {α : Type} [LinearOrder α] {item other : α} {items sorted : List α}

/-- An item is inserted beside those that are there. -/
theorem mem_insertAscending :
    other ∈ insertAscending item items ↔ other = item ∨ other ∈ items := by
  induction items with
  | nil => simp [insertAscending]
  | cons first rest ih =>
    unfold insertAscending
    split
    · exact List.mem_cons
    split
    · next same => simp [same]
    · simp only [List.mem_cons, ih]
      tauto

theorem pairwise_insertAscending (ascending : sorted.Pairwise (· < ·)) :
    (insertAscending item sorted).Pairwise (· < ·) := by
  induction sorted with
  | nil => exact List.pairwise_singleton _ _
  | cons first rest ih =>
    obtain ⟨low, ascending⟩ := List.pairwise_cons.mp ascending
    unfold insertAscending
    split
    · next before =>
      exact .cons (List.forall_mem_cons.mpr ⟨before, fun d member => before.trans (low d member)⟩)
        (.cons low ascending)
    split
    · exact .cons low ascending
    · next notBefore different =>
      refine .cons (fun d member => ?_) (ih ascending)
      rcases mem_insertAscending.mp member with rfl | member
      · exact lt_of_le_of_ne (not_lt.mp notBefore) (Ne.symm different)
      · exact low d member

theorem mem_unite : other ∈ unite sorted items ↔ other ∈ sorted ∨ other ∈ items := by
  unfold unite
  induction items generalizing sorted with
  | nil => simp
  | cons item items ih =>
    rw [List.foldl_cons, ih, mem_insertAscending, List.mem_cons]
    tauto

/-- Putting in items one by one keeps a list ascending. -/
theorem pairwise_unite (ascending : sorted.Pairwise (· < ·)) :
    (unite sorted items).Pairwise (· < ·) := by
  unfold unite
  induction items generalizing sorted with
  | nil => exact ascending
  | cons item items ih => exact ih (pairwise_insertAscending ascending)

/-- Uniting with two lists in turn is uniting with both at once. -/
theorem unite_append (sorted items more : List α) :
    unite (unite sorted items) more = unite sorted (items ++ more) :=
  List.foldl_append.symm

theorem pairwise_ascending (items : List α) : (ascending items).Pairwise (· < ·) :=
  pairwise_unite .nil

theorem mem_ascending : other ∈ ascending items ↔ other ∈ items :=
  mem_unite.trans (or_iff_right List.not_mem_nil)

end Ordered

section Lists

variable {cs : List Char}

/-- A list confuses characters if two are left when each is kept once. -/
theorem two_le_length_ascending : 2 ≤ (ascending cs).length ↔ Confuses cs := by
  have sorted := pairwise_ascending cs
  have members : ∀ d, d ∈ ascending cs ↔ d ∈ cs := fun _ => mem_ascending
  generalize ascending cs = kept at sorted members
  simp only [Confuses, ← members]
  rcases kept with _ | ⟨first, _ | ⟨second, rest⟩⟩
  · simp
  · simp
  · have apart : first < second := (List.pairwise_cons.mp sorted).1 second List.mem_cons_self
    simp only [List.length_cons, Nat.le_add_left, true_iff]
    exact ⟨first, by simp, second, by simp, apart.ne⟩

/-- The escaped form of a text tells the text. -/
theorem escapeChars_injective : Function.Injective Pattern.escapeChars := by
  intro left
  induction left with
  | nil =>
    rintro (_ | ⟨d, right⟩) same
    · rfl
    · rcases Pattern.escapeChars_cons d right with ⟨-, escaped⟩ | ⟨-, escaped⟩
      · exact nomatch same.trans escaped
      · exact nomatch same.trans escaped
  | cons c left ih =>
    have backslash : '\\' ∈ Pattern.metaChars := by decide
    rintro (_ | ⟨d, right⟩) same
    · rcases Pattern.escapeChars_cons c left with ⟨-, escaped⟩ | ⟨-, escaped⟩
      · exact nomatch same.symm.trans escaped
      · exact nomatch same.symm.trans escaped
    rcases Pattern.escapeChars_cons c left with ⟨_, escaped⟩ | ⟨plain, escaped⟩ <;>
      rcases Pattern.escapeChars_cons d right with ⟨_, escaped'⟩ | ⟨plain', escaped'⟩ <;>
      rw [escaped, escaped'] at same
    · obtain ⟨rfl, rest⟩ := List.cons.inj (List.cons.inj same).2
      rw [ih rest]
    · exact absurd ((List.cons.inj same).1 ▸ backslash) plain'
    · exact absurd ((List.cons.inj same).1 ▸ backslash) plain
    · obtain ⟨rfl, rest⟩ := List.cons.inj same
      rw [ih rest]

theorem bracketed_injective : Function.Injective bracketed := fun _ _ same =>
  escapeChars_injective (List.append_cancel_right (List.cons.inj same).2)

end Lists

section Links

variable {lists : List (List Char)} {chars : List Char} {c d : Char}

theorem Together.symm (together : Together lists c d) : Together lists d c := by
  obtain ⟨chars, listed, confuses, one, other⟩ := together
  exact ⟨chars, listed, confuses, other, one⟩

theorem Linked.symm (linked : Linked lists c d) : Linked lists d c := by
  induction linked with
  | single together => exact .single together.symm
  | tail _ together ih => exact .head together.symm ih

theorem Linked.mono {others : List (List Char)} (subset : lists ⊆ others)
    (linked : Linked lists c d) : Linked others c d :=
  Relation.TransGen.mono (fun _ _ ⟨chars, listed, both⟩ => ⟨chars, subset listed, both⟩) _ _ linked

/-- A character stands together with itself if it is in a confusing list. -/
theorem together_self_iff : Together lists c c ↔ ∃ chars ∈ lists, Confuses chars ∧ c ∈ chars := by
  simp only [Together, and_self]

/-- A character is linked with itself if any list confuses it with others. -/
theorem linked_self_iff : Linked lists c c ↔ ∃ chars ∈ lists, Confuses chars ∧ c ∈ chars := by
  rw [← together_self_iff]
  refine ⟨fun linked => ?_, .single⟩
  obtain ⟨d, together, -⟩ := (Relation.TransGen.head'_iff).mp linked
  obtain ⟨chars, listed, confuses, member, -⟩ := together
  exact ⟨chars, listed, confuses, member, member⟩

/-- The characters that are covered are those that are linked at all. -/
theorem mem_covered : c ∈ covered lists ↔ Linked lists c c := by
  rw [linked_self_iff, covered, List.mem_dedup, List.mem_flatten]
  simp only [List.mem_filter, decide_eq_true_eq, and_assoc]

/-- Lists that have the same characters confuse the same ones. -/
theorem linked_congr {others : List (List Char)}
    (into : ∀ chars ∈ lists, ∃ chars' ∈ others, ∀ c, c ∈ chars ↔ c ∈ chars')
    (onto : ∀ chars' ∈ others, ∃ chars ∈ lists, ∀ c, c ∈ chars ↔ c ∈ chars') :
    Linked others = Linked lists := by
  have together : Together lists = Together others := by
    funext c d
    refine propext ⟨?_, ?_⟩
    · rintro ⟨chars, listed, confuses, one, other⟩
      obtain ⟨chars', listed', same⟩ := into chars listed
      simp only [Confuses, same] at confuses one other
      exact ⟨chars', listed', confuses, one, other⟩
    · rintro ⟨chars', listed', confuses, one, other⟩
      obtain ⟨chars, listed, same⟩ := onto chars' listed'
      simp only [Confuses, ← same] at confuses one other
      exact ⟨chars, listed, confuses, one, other⟩
  exact congrArg Relation.TransGen together.symm

end Links

/-- Disjoint classes of characters, each in ascending order. -/
structure Grouping where
  classes : List (List Char)

namespace Grouping

/-- No classes at all. -/
def none : Grouping := ⟨[]⟩

/-- Whether two lists share a character. -/
def touches (left right : List Char) : Bool :=
  left.any right.contains

/-- Put all characters of a list into one class, with the classes that any of them is in. -/
def add (grouping : Grouping) (chars : List Char) : Grouping :=
  let incoming := ascending chars
  if incoming.length < 2 then grouping
  else
    let (touched, apart) := grouping.classes.partition (touches incoming)
    ⟨apart ++ [ascending (incoming ++ touched.flatten)]⟩

/-- Put the characters of each of several lists together. -/
def addAll (grouping : Grouping) (lists : List (List Char)) : Grouping :=
  lists.foldl add grouping

/-- The class of a character. -/
def classOf (grouping : Grouping) (c : Char) : Option (List Char) :=
  grouping.classes.find? fun members => members.contains c

theorem touches_iff {left right : List Char} : touches left right ↔ ∃ c ∈ left, c ∈ right := by
  simp [touches]

/-- Two characters are in one class. -/
def SameClass (grouping : Grouping) (c d : Char) : Prop :=
  ∃ members ∈ grouping.classes, c ∈ members ∧ d ∈ members

/-- The classes of a grouping are the classes of the characters that several lists link. -/
structure Gathers (grouping : Grouping) (lists : List (List Char)) : Prop where
  ascending : ∀ members ∈ grouping.classes, members.Pairwise (· < ·)
  apart : grouping.classes.Pairwise List.Disjoint
  linked : ∀ c d, Linked lists c d ↔ grouping.SameClass c d

theorem gathers_none : none.Gathers [] where
  ascending := fun _ member => absurd member List.not_mem_nil
  apart := .nil
  linked c d := by
    refine iff_of_false (fun linked => ?_) fun ⟨_, member, _⟩ => absurd member List.not_mem_nil
    obtain ⟨_, ⟨_, listed, _⟩, _⟩ := (Relation.TransGen.head'_iff).mp linked
    exact absurd listed List.not_mem_nil

section Adding

variable {grouping : Grouping} {lists : List (List Char)} {chars members others : List Char}
  {c d : Char}

/-- Classes that share a character are one. -/
theorem eq_of_shared (apart : grouping.classes.Pairwise List.Disjoint)
    (one : members ∈ grouping.classes) (other : others ∈ grouping.classes)
    (here : c ∈ members) (there : c ∈ others) : members = others := by
  have symmetric : Std.Symm (List.Disjoint (α := Char)) := ⟨fun _ _ disjoint => disjoint.symm⟩
  by_contra different
  exact apart.forall one other different here there

/-- The characters of a list and of the classes that it touches. -/
def joined (grouping : Grouping) (chars : List Char) : List Char :=
  ascending (ascending chars ++ (grouping.classes.filter (touches (ascending chars))).flatten)

/-- The joined class has the characters of the list and of the classes that it touches. -/
theorem mem_joined : d ∈ joined grouping chars ↔
    d ∈ chars ∨ ∃ members ∈ grouping.classes, (∃ c ∈ chars, c ∈ members) ∧ d ∈ members := by
  simp only [joined, mem_ascending, List.mem_append, List.mem_flatten, List.mem_filter,
    touches_iff, and_assoc]

/-- A confusing list leaves the classes that it does not touch and adds the joined one. -/
theorem classes_add (confuses : Confuses chars) : (grouping.add chars).classes =
    grouping.classes.filter (fun members => !touches (ascending chars) members) ++
      [joined grouping chars] := by
  have enough : ¬ (ascending chars).length < 2 :=
    not_lt.mpr (two_le_length_ascending.mpr confuses)
  simp only [add, if_neg enough, List.partition_eq_filter_filter]
  rfl

/-- Adding a list joins the classes that it touches. -/
theorem mem_classes_add (confuses : Confuses chars) :
    members ∈ (grouping.add chars).classes ↔
      (members ∈ grouping.classes ∧ ∀ c ∈ chars, c ∉ members) ∨
        members = joined grouping chars := by
  simp [classes_add confuses, Bool.eq_false_iff, touches_iff, mem_ascending]

theorem add_of_not_confuses (plain : ¬ Confuses chars) : grouping.add chars = grouping := by
  have few : (ascending chars).length < 2 := not_le.mp (mt two_le_length_ascending.mp plain)
  simp only [add, if_pos few]

/-- A list that confuses nothing puts no characters together. -/
theorem together_append_of_not_confuses (plain : ¬ Confuses chars) :
    Together (lists ++ [chars]) = Together lists := by
  funext c d
  simp [Together, or_and_right, exists_or, plain]

/-- Classes stay apart when a list joins some of them. -/
theorem apart_add (apart : grouping.classes.Pairwise List.Disjoint)
    (confuses : Confuses chars) : (grouping.add chars).classes.Pairwise List.Disjoint := by
  rw [classes_add confuses, List.pairwise_append]
  refine ⟨apart.filter _, List.pairwise_singleton _ _, fun members kept other new => ?_⟩
  have old : members ∈ (grouping.add chars).classes := by
    rw [classes_add confuses]
    exact List.mem_append_left _ kept
  obtain ⟨member, free⟩ : members ∈ grouping.classes ∧ ∀ c ∈ chars, c ∉ members := by
    obtain ⟨member, free⟩ := List.mem_filter.mp kept
    refine ⟨member, fun c shared inside => ?_⟩
    rw [Bool.not_eq_true', Bool.eq_false_iff] at free
    exact free (touches_iff.mpr ⟨c, mem_ascending.mpr shared, inside⟩)
  obtain rfl := List.mem_singleton.mp new
  intro c here there
  rcases mem_joined.mp there with shared | ⟨touched, also, ⟨d, shared, inside⟩, there⟩
  · exact free c shared here
  · obtain rfl := eq_of_shared apart member also here there
    exact free d shared inside

/-- A list that confuses two characters puts them into one class, and keeps those together that
were in one. -/
theorem sameClass_add (confuses : Confuses chars)
    (before : (c ∈ chars ∧ d ∈ chars) ∨ grouping.SameClass c d) :
    (grouping.add chars).SameClass c d := by
  have new : joined grouping chars ∈ (grouping.add chars).classes :=
    (mem_classes_add confuses).mpr (.inr rfl)
  rcases before with ⟨one, other⟩ | ⟨members, member, one, other⟩
  · exact ⟨_, new, mem_joined.mpr (.inl one), mem_joined.mpr (.inl other)⟩
  by_cases touched : ∃ e ∈ chars, e ∈ members
  · exact ⟨_, new, mem_joined.mpr (.inr ⟨members, member, touched, one⟩),
      mem_joined.mpr (.inr ⟨members, member, touched, other⟩)⟩
  · have free : ∀ e ∈ chars, e ∉ members := fun e shared inside => touched ⟨e, shared, inside⟩
    exact ⟨members, (mem_classes_add confuses).mpr (.inl ⟨member, free⟩), one, other⟩

/-- Whatever is in the joined class is linked with a character of the list. -/
theorem exists_linked_of_mem_joined (linked : ∀ c d, Linked lists c d ↔ grouping.SameClass c d)
    (confuses : Confuses chars) (inside : c ∈ joined grouping chars) :
    ∃ e ∈ chars, Linked (lists ++ [chars]) c e := by
  rcases mem_joined.mp inside with shared | ⟨members, member, ⟨e, shared, inner⟩, here⟩
  · exact ⟨c, shared, .single ⟨chars, by simp, confuses, shared, shared⟩⟩
  · exact ⟨e, shared, ((linked c e).mpr ⟨members, member, here, inner⟩).mono (by simp)⟩

/-- Characters of one class after a list has been added are linked by it and the lists before. -/
theorem linked_of_sameClass_add (linked : ∀ c d, Linked lists c d ↔ grouping.SameClass c d)
    (confuses : Confuses chars) (same : (grouping.add chars).SameClass c d) :
    Linked (lists ++ [chars]) c d := by
  obtain ⟨members, member, one, other⟩ := same
  rcases (mem_classes_add confuses).mp member with ⟨old, -⟩ | rfl
  · exact ((linked c d).mpr ⟨members, old, one, other⟩).mono (by simp)
  · obtain ⟨e, shared, first⟩ := exists_linked_of_mem_joined linked confuses one
    obtain ⟨e', shared', last⟩ := exists_linked_of_mem_joined linked confuses other
    have middle : Together (lists ++ [chars]) e e' := ⟨chars, by simp, confuses, shared, shared'⟩
    exact (first.tail middle).trans last.symm

namespace Gathers

/-- Adding a list keeps the classes to what is linked. -/
theorem add (gathers : grouping.Gathers lists) (chars : List Char) :
    (grouping.add chars).Gathers (lists ++ [chars]) := by
  by_cases confuses : Confuses chars
  swap
  · rw [add_of_not_confuses confuses]
    refine ⟨gathers.ascending, gathers.apart, fun c d => ?_⟩
    rw [← gathers.linked, Linked, together_append_of_not_confuses confuses]
    rfl
  have apart := apart_add gathers.apart confuses
  have step {c d : Char} (together : Together (lists ++ [chars]) c d) :
      (grouping.add chars).SameClass c d := by
    obtain ⟨added, listed, confuses', one, other⟩ := together
    rcases List.mem_append.mp listed with old | last
    · exact sameClass_add confuses
        (.inr ((gathers.linked c d).mp (.single ⟨added, old, confuses', one, other⟩)))
    · exact sameClass_add confuses (.inl (List.mem_singleton.mp last ▸ ⟨one, other⟩))
  refine ⟨fun members member => ?_, apart, fun c d =>
    ⟨fun linked => ?_, linked_of_sameClass_add gathers.linked confuses⟩⟩
  · rcases (mem_classes_add confuses).mp member with ⟨old, -⟩ | rfl
    · exact gathers.ascending members old
    · exact pairwise_ascending _
  · -- A step of the chain stays in one class, and classes that share a character are one.
    induction linked with
    | single together => exact step together
    | tail _ together ih =>
      obtain ⟨members, member, first, middle⟩ := ih
      obtain ⟨others, member', middle', last⟩ := step together
      obtain rfl := eq_of_shared apart member member' middle middle'
      exact ⟨members, member, first, last⟩

/-- Adding lists one after another gathers all of them. -/
theorem addAll (gathers : grouping.Gathers lists) (more : List (List Char)) :
    (grouping.addAll more).Gathers (lists ++ more) := by
  induction more generalizing grouping lists with
  | nil =>
    rw [List.append_nil]
    exact gathers
  | cons chars more ih =>
    rw [List.append_cons]
    exact ih (gathers.add chars)

end Gathers

end Adding

/-- The classes of a table of lists are those that the lists link. -/
theorem gathers_addAll (lists : List (List Char)) : (none.addAll lists).Gathers lists :=
  gathers_none.addAll lists

namespace Gathers

variable {grouping : Grouping} {lists : List (List Char)} {c d : Char} {members : List Char}

/-- The class of a character is the one that it is in. -/
theorem classOf_eq_some (gathers : grouping.Gathers lists) :
    grouping.classOf c = some members ↔ members ∈ grouping.classes ∧ c ∈ members := by
  unfold classOf
  constructor
  · intro found
    exact ⟨List.mem_of_find?_eq_some found, by simpa using List.find?_some found⟩
  · rintro ⟨member, inside⟩
    cases found : grouping.classes.find? fun members => members.contains c with
    | none => exact absurd (List.find?_eq_none.mp found members member) (by simpa using inside)
    | some others =>
      have other : c ∈ others := by simpa using List.find?_some found
      rw [eq_of_shared gathers.apart (List.mem_of_find?_eq_some found) member other inside]

/-- A character has no class if nothing is linked to it. -/
theorem classOf_eq_none (gathers : grouping.Gathers lists) :
    grouping.classOf c = Option.none ↔ ¬ Linked lists c c := by
  rw [gathers.linked, Option.eq_none_iff_forall_ne_some]
  simp only [ne_eq, gathers.classOf_eq_some, SameClass, and_self, not_exists]

/-- The class of a character is what it is linked with. -/
theorem mem_classOf (gathers : grouping.Gathers lists)
    (found : grouping.classOf c = some members) :
    members.Pairwise (· < ·) ∧ ∀ d, d ∈ members ↔ Linked lists c d := by
  obtain ⟨member, inside⟩ := gathers.classOf_eq_some.mp found
  refine ⟨gathers.ascending members member, fun d => ?_⟩
  rw [gathers.linked]
  refine ⟨fun also => ⟨members, member, inside, also⟩, ?_⟩
  rintro ⟨others, member', inside', also⟩
  exact eq_of_shared gathers.apart member member' inside inside' ▸ also

/-- What is linked decides the class of each character. -/
theorem classOf_congr {other : Grouping} {lists' : List (List Char)}
    (gathers : grouping.Gathers lists) (gathers' : other.Gathers lists')
    (same : Linked lists = Linked lists') (c : Char) :
    grouping.classOf c = other.classOf c := by
  cases found : grouping.classOf c with
  | none =>
    rw [gathers.classOf_eq_none, same, ← gathers'.classOf_eq_none] at found
    exact found.symm
  | some members =>
    cases found' : other.classOf c with
    | none =>
      rw [gathers'.classOf_eq_none, ← same, ← gathers.classOf_eq_none, found] at found'
      exact nomatch found'
    | some members' =>
      obtain ⟨sorted, linked⟩ := gathers.mem_classOf found
      obtain ⟨sorted', linked'⟩ := gathers'.mem_classOf found'
      refine congrArg some (sorted.eq_of_mem_iff sorted' fun d => ?_)
      rw [linked, linked', same]

end Gathers

end Grouping

end Scrutiny.Word.Confusables
