import Mathlib
import Scrutiny.Proofs.ErrorMap.Recording
import Scrutiny.Value

/-! # Equality of values

Two values are the same if they are of one kind and hold the same, whatever the order of the members
of an object. Sameness is transitive (`Value.same_trans`), and it is symmetric from a value on in
which no object has two members of one name (`Value.same_symm`). Objects that are the same have the
same under every name (`Value.rel_get?`).
-/

namespace Scrutiny

namespace Number

theorem same_symm {number other : Number} (same : number.same other) : other.same number := by
  cases number <;> cases other <;> simp only [Number.same, Bool.false_eq_true] at same ⊢
  · exact BEq.symm same
  · exact BEq.symm same

theorem same_trans {first second third : Number} (one : first.same second)
    (two : second.same third) : first.same third := by
  cases first <;> cases second <;> cases third <;>
    simp only [Number.same, Bool.false_eq_true] at one two ⊢
  · exact BEq.trans one two
  · exact BEq.trans one two

end Number

namespace Value

/-- Lists are the same if their items are, one by one. -/
theorem sameItems_iff {lefts rights : List Value} :
    sameItems lefts rights ↔ List.Forall₂ (fun left right => left.same right) lefts rights := by
  induction lefts generalizing rights with
  | nil => cases rights <;> simp [sameItems]
  | cons left lefts ih =>
    cases rights with
    | nil => simp [sameItems]
    | cons right rights => rw [sameItems, Bool.and_eq_true, ih, List.forall₂_cons]

/-- Members are among others if each is found there with the same value. -/
theorem sameMembers_iff {lefts rights : Entries Value} :
    sameMembers lefts rights ↔ ∀ member ∈ lefts, ∃ other,
      Entries.get? rights member.1 = some other ∧ member.2.same other := by
  induction lefts with
  | nil => simp [sameMembers]
  | cons member lefts ih =>
    obtain ⟨key, left⟩ := member
    rw [sameMembers, Bool.and_eq_true, ih, List.forall_mem_cons]
    refine and_congr_left' ?_
    cases Entries.get? rights key <;> simp

/-- Objects are the same if they have as many members and those of the first are found in the
second. -/
theorem same_object_iff {lefts rights : Entries Value} :
    (object lefts).same (.object rights) ↔ lefts.length = rights.length ∧ ∀ member ∈ lefts,
      ∃ other, Entries.get? rights member.1 = some other ∧ member.2.same other := by
  rw [same, Bool.and_eq_true, beq_iff_eq, sameMembers_iff]

mutual

/-- Sameness is transitive. -/
theorem same_trans : ∀ {first second third : Value}, first.same second → second.same third →
    first.same third
  | .list _, .list _, .list _, one, two => by
    simp only [same] at one two ⊢
    exact sameItems_trans one two
  | .object firsts, .object seconds, .object thirds, one, two => by
    obtain ⟨length, _⟩ := same_object_iff.mp one
    obtain ⟨further, _⟩ := same_object_iff.mp two
    simp only [same, Bool.and_eq_true, beq_iff_eq] at one two ⊢
    exact ⟨length.trans further, sameMembers_trans one.2 two.2⟩
  | .number _, .number _, .number _, one, two => by
    simp only [same] at one two ⊢
    exact Number.same_trans one two
  | .null, .null, .null, _, _ => rfl
  | .bool _, .bool _, .bool _, one, two => by simp_all [same]
  | .string _, .string _, .string _, one, two => by simp_all [same]

theorem sameItems_trans : ∀ {firsts seconds thirds : List Value}, sameItems firsts seconds →
    sameItems seconds thirds → sameItems firsts thirds
  | [], [], [], _, _ => rfl
  | first :: firsts, second :: seconds, third :: thirds, one, two => by
    simp only [sameItems, Bool.and_eq_true] at one two ⊢
    exact ⟨same_trans one.1 two.1, sameItems_trans one.2 two.2⟩

/-- Being among the members of another object is transitive. -/
theorem sameMembers_trans : ∀ {firsts seconds thirds : Entries Value},
    sameMembers firsts seconds → sameMembers seconds thirds → sameMembers firsts thirds
  | [], _, _, _, _ => rfl
  | (key, first) :: firsts, seconds, thirds, one, two => by
    obtain ⟨second, held, same⟩ := sameMembers_iff.mp one _ List.mem_cons_self
    obtain ⟨third, found, further⟩ := sameMembers_iff.mp two _ (Entries.mem_of_get? held)
    simp only [sameMembers, Bool.and_eq_true] at one ⊢
    rw [found]
    exact ⟨same_trans same further, sameMembers_trans one.2 two⟩

end

/-- No object in a value has two members of one name. -/
inductive Unambiguous : Value → Prop
  | null : Unambiguous .null
  | bool (value : Bool) : Unambiguous (.bool value)
  | number (value : Number) : Unambiguous (.number value)
  | string (value : String) : Unambiguous (.string value)
  | list {items : List Value} : (∀ item ∈ items, Unambiguous item) → Unambiguous (.list items)
  | object {members : Entries Value} : members.keys.Nodup →
      (∀ member ∈ members, Unambiguous member.2) → Unambiguous (.object members)

variable {lefts rights : Entries Value}

/-- Objects that are the same have members of the same names. -/
theorem keys_perm (distinct : lefts.keys.Nodup) (same : (object lefts).same (.object rights)) :
    lefts.keys.Perm rights.keys := by
  obtain ⟨length, members⟩ := same_object_iff.mp same
  have within : lefts.keys ⊆ rights.keys := by
    intro key listed
    obtain ⟨member, held, rfl⟩ := List.mem_map.mp listed
    obtain ⟨other, found, _⟩ := members member held
    exact List.mem_map.mpr ⟨_, Entries.mem_of_get? found, rfl⟩
  refine (distinct.subperm within).perm_of_length_le ?_
  rw [Entries.keys, Entries.keys, List.length_map, List.length_map]
  exact length.ge

/-- Objects that are the same have the same under every name, or nothing. -/
theorem rel_get? (distinct : lefts.keys.Nodup) (same : (object lefts).same (.object rights))
    (key : String) :
    Option.Rel (fun left right => left.same right) (lefts.get? key) (rights.get? key) := by
  cases held : lefts.get? key with
  | none =>
    have absent : key ∉ rights.keys := fun found =>
      Entries.get?_eq_none_iff.mp held ((keys_perm distinct same).mem_iff.mpr found)
    rw [Entries.get?_eq_none_iff.mpr absent]
    exact .none
  | some left =>
    obtain ⟨right, found, equal⟩ := (same_object_iff.mp same).2 _ (Entries.mem_of_get? held)
    rw [found]
    exact .some equal

/-- From a value on that names no member twice, sameness is symmetric. -/
theorem same_symm {value other : Value} (clear : value.Unambiguous) (same : value.same other) :
    other.same value := by
  induction clear generalizing other with
  | null => cases other <;> simp_all [Value.same]
  | bool => cases other <;> simp_all [Value.same]
  | string => cases other <;> simp_all [Value.same]
  | number value =>
    cases other with
    | number later =>
      simp only [Value.same] at same ⊢
      exact Number.same_symm same
    | _ => exact absurd same (by simp [Value.same])
  | @list items items_clear ih =>
    cases other with
    | list others =>
      simp only [Value.same, sameItems_iff] at same ⊢
      induction same with
      | nil => exact .nil
      | cons equal _ later =>
        refine .cons (ih _ List.mem_cons_self equal) (later ?_ ?_)
        · exact fun item listed => items_clear item (List.mem_cons_of_mem _ listed)
        · exact fun item listed => ih item (List.mem_cons_of_mem _ listed)
    | _ => exact absurd same (by simp [Value.same])
  | @object members distinct _ ih =>
    cases other with
    | object others =>
      have names := keys_perm distinct same
      refine same_object_iff.mpr ⟨(same_object_iff.mp same).1.symm, fun member held => ?_⟩
      have found := Entries.get?_of_mem (names.nodup_iff.mp distinct) held
      have related := rel_get? distinct same member.1
      rw [found] at related
      cases back : Entries.get? members member.1 with
      | none => rw [back] at related; cases related
      | some value =>
        rw [back] at related
        cases related with
        | some equal => exact ⟨value, rfl, ih _ (Entries.mem_of_get? back) equal⟩
    | _ => exact absurd same (by simp [Value.same])

end Value

end Scrutiny
