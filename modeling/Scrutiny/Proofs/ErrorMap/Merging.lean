import Scrutiny.Proofs.ErrorMap.Counting
import Scrutiny.Proofs.Walk.Ancestry

/-! # Merging and restricting

To lie at or below a key is an order of keys (`Path.isUnder_antisymm` with the laws beside it), and
what lies there is cut out of a merge by cutting it out of both maps (`ErrorMap.subtree_merge`).
Between maps in which every key has a message, a merge joins the messages key by key and puts the
keys that are new behind the others (`ErrorMap.keys_merge`). It follows that merging is associative
and that the empty map changes nothing on either side (`ErrorMap.merge_laws`).
-/

namespace Scrutiny

namespace Path

theorem isUnder_root {key : String} (above : isUnder "" key) : key = "" := by
  rcases isUnder_iff.mp above with root | ⟨rest, text, _⟩
  · exact root
  · exact String.toList_eq_nil_iff.mp (List.append_eq_nil_iff.mp text.symm).1

/-- Keys that lie at or below each other are one. -/
theorem isUnder_antisymm {key other : String} (lower : isUnder key other)
    (upper : isUnder other key) : key = other := by
  rcases isUnder_iff.mp lower with root | ⟨rest, text, _⟩
  · subst root
    exact isUnder_root upper
  rcases isUnder_iff.mp upper with root | ⟨further, back, _⟩
  · subst root
    exact (isUnder_root lower).symm
  -- Each key begins with the other, so nothing follows.
  have none : rest ++ further = [] := by
    rw [text, List.append_assoc] at back
    exact List.self_eq_append_right.mp back
  rw [(List.append_eq_nil_iff.mp none).1, List.append_nil] at text
  exact String.toList_inj.mp text

end Path

namespace ErrorMap

/-- What is recorded at a key or below it in a map that begins with an entry. -/
theorem subtree_cons (name : String) (messages : List String) (rest : Entries (List String))
    (parent : String) : subtree ⟨(name, messages) :: rest⟩ parent =
      if Path.isUnder name parent then ⟨(name, messages) :: (subtree ⟨rest⟩ parent).entries⟩
      else subtree ⟨rest⟩ parent := by
  by_cases under : Path.isUnder name parent <;> simp [subtree, under]

/-- What lies below a key in a merge is the merge of what lies there in both maps. -/
theorem subtree_merge (errors other : ErrorMap) (parent : String) :
    (errors.merge other).subtree parent = (errors.subtree parent).merge (other.subtree parent) := by
  obtain ⟨entries⟩ := other
  induction entries generalizing errors with
  | nil => rfl
  | cons entry rest ih =>
    obtain ⟨name, messages⟩ := entry
    rw [merge_cons, ih, subtree_extendAt, subtree_cons]
    split
    · rw [merge_cons]
    · rfl

/-- Restricting to a place and then to one below it is restricting to that one. -/
theorem subtree_subtree (errors : ErrorMap) {parent outer : String}
    (under : Path.isUnder parent outer) :
    (errors.subtree outer).subtree parent = errors.subtree parent := by
  refine congrArg mk (List.filter_filter.trans (List.filter_congr fun entry _ => ?_))
  rw [Bool.and_eq_left_iff_imp]
  exact fun lower => Path.isUnder_trans lower under

/-- Entries under other keys are appended as they are. -/
theorem merge_of_apart {errors : ErrorMap} {rest : Entries (List String)}
    (apart : errors.keys.Disjoint rest.keys) (recorded : Recorded ⟨rest⟩) :
    errors.merge ⟨rest⟩ = ⟨errors.entries ++ rest⟩ := by
  induction rest generalizing errors with
  | nil => exact congrArg mk (List.append_nil _).symm
  | cons entry rest ih =>
    obtain ⟨name, messages⟩ := entry
    obtain ⟨alone, distinct⟩ := List.nodup_cons.mp recorded.distinct
    have absent : name ∉ errors.keys := fun member => apart member List.mem_cons_self
    have written : errors.extendAt name messages = ⟨errors.entries ++ [(name, messages)]⟩ := by
      have nothing : errors.messages name = [] :=
        congrArg (Option.getD · []) (Entries.get?_eq_none_iff.mpr absent)
      rw [extendAt_of_ne _ _ (recorded.inhabited _ List.mem_cons_self), nothing,
        Entries.put_of_notMem _ absent, List.nil_append]
    rw [merge_cons, written, ih]
    · rw [List.append_assoc]
      rfl
    · intro key member
      rw [keys, Entries.keys_append] at member
      rcases List.mem_append.mp member with before | single
      · exact fun later => apart before (List.mem_cons_of_mem _ later)
      · rwa [List.mem_singleton.mp single]
    · exact ⟨distinct, fun entry member =>
        recorded.inhabited entry (List.mem_cons_of_mem _ member)⟩

/-- Merging into the empty map gives a recorded map back. -/
theorem empty_merge {errors : ErrorMap} (recorded : errors.Recorded) :
    ErrorMap.empty.merge errors = errors :=
  merge_of_apart (List.disjoint_nil_left _) recorded

theorem merge_empty (errors : ErrorMap) : errors.merge .empty = errors := rfl

/-- Merging is associative. -/
theorem merge_assoc (first : ErrorMap) {second : ErrorMap} (recorded : second.Recorded)
    (third : ErrorMap) : (first.merge second).merge third = first.merge (second.merge third) := by
  obtain ⟨entries⟩ := third
  induction entries generalizing second with
  | nil => rfl
  | cons entry rest ih =>
    obtain ⟨name, messages⟩ := entry
    rw [merge_cons, merge_cons, ← merge_extendAt first recorded]
    exact ih (recorded.extendAt name messages)

/-- The keys of the second map that are new go behind those of the first, in their order. -/
theorem keys_merge (seed : ErrorMap) {errors : ErrorMap} (recorded : errors.Recorded) :
    (seed.merge errors).keys = seed.keys ++ errors.keys.filter (· ∉ seed.keys) := by
  obtain ⟨entries⟩ := errors
  induction entries generalizing seed with
  | nil => exact (List.append_nil _).symm
  | cons entry rest ih =>
    obtain ⟨name, messages⟩ := entry
    obtain ⟨alone, distinct⟩ := List.nodup_cons.mp recorded.distinct
    have further : Recorded ⟨rest⟩ := ⟨distinct, fun entry member =>
      recorded.inhabited entry (List.mem_cons_of_mem _ member)⟩
    have begins : keys ⟨(name, messages) :: rest⟩ = name :: keys ⟨rest⟩ := rfl
    rw [merge_cons, ih _ further, begins,
      keys_extendAt _ _ (recorded.inhabited _ List.mem_cons_self)]
    by_cases present : name ∈ seed.keys
    · rw [if_pos present, List.filter_cons_of_neg (by simpa using present)]
    · rw [if_neg present, List.filter_cons_of_pos (by simpa using present), List.append_assoc]
      -- The name does not come again, so it does not matter that it is there by now.
      refine congrArg (seed.keys ++ name :: ·) (List.filter_congr fun key member => ?_)
      have different : key ≠ name := fun same => alone (same ▸ member)
      simp [different]

/-- **Merging and restricting.** Between maps in which every key stands once and has a message,
merging is associative and the empty map changes nothing on either side. In a merge every key holds
the messages of the first map and then those of the second; the keys are those of the first map and
then, in their order, the new ones of the second. To lie at or below a key is reflexive, transitive
and antisymmetric. What lies at or below a key is cut out of a merge by cutting it out of both maps,
and it can be cut out of what lies at or below a key above it. -/
theorem merge_laws {first second : ErrorMap} (one : first.Recorded) (two : second.Recorded) :
    (∀ third, (first.merge second).merge third = first.merge (second.merge third)) ∧
      ErrorMap.empty.merge first = first ∧ first.merge .empty = first ∧
      (∀ key, (first.merge second).messages key = first.messages key ++ second.messages key) ∧
      (first.merge second).keys = first.keys ++ second.keys.filter (· ∉ first.keys) ∧
      (∀ parent, (first.merge second).subtree parent =
        (first.subtree parent).merge (second.subtree parent)) ∧
      (∀ key, Path.isUnder key key) ∧
      (∀ key middle parent, Path.isUnder key middle → Path.isUnder middle parent →
        Path.isUnder key parent) ∧
      (∀ key other, Path.isUnder key other → Path.isUnder other key → key = other) ∧
      ∀ parent outer, Path.isUnder parent outer →
        (first.subtree outer).subtree parent = first.subtree parent :=
  ⟨merge_assoc first two, empty_merge one, merge_empty first, messages_merge first two,
    keys_merge first two, subtree_merge first second, Path.isUnder_refl,
    fun _ _ _ => Path.isUnder_trans, fun _ _ => Path.isUnder_antisymm,
    fun _ _ => subtree_subtree first⟩

/-- The errors of an order and, after them, those that come from another check of it. -/
theorem merge_laws_checkedOrder :
    let first : ErrorMap := ⟨[("lines[0][qty]", ["too few"]), ("id", ["taken"])]⟩
    let second : ErrorMap := ⟨[("lines[0]", ["late"]), ("lines[0][qty]", ["not whole", "odd"])]⟩
    let third : ErrorMap := ⟨[("lines[0]", ["lost"])]⟩
    first.Recorded ∧ second.Recorded ∧
      (first.merge second).merge third = first.merge (second.merge third) ∧
      (first.merge second).messages "lines[0][qty]" = ["too few", "not whole", "odd"] ∧
      (first.merge second).keys = ["lines[0][qty]", "id", "lines[0]"] ∧
      (first.merge second).subtree "lines[0]" =
        ⟨[("lines[0][qty]", ["too few", "not whole", "odd"]), ("lines[0]", ["late"])]⟩ ∧
      (first.subtree "lines").subtree "lines[0]" = first.subtree "lines[0]" := by
  intro first second third
  have one : first.Recorded := ⟨by decide, by decide⟩
  have two : second.Recorded := ⟨by decide, by decide⟩
  obtain ⟨assoc, _, _, joined, ordered, cut, _, _, _, nested⟩ := merge_laws one two
  exact ⟨one, two, assoc third, (joined _).trans rfl, ordered.trans rfl, (cut _).trans rfl,
    nested _ _ rfl⟩

end ErrorMap

end Scrutiny
