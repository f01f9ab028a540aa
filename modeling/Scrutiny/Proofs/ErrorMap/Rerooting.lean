import Scrutiny.Proofs.ErrorMap.Recording

/-! # Errors of a part of a tree

What a validation of a part of a tree by itself records goes under the key of the part in the whole
tree: every key is rerooted there, and the messages come after those that are there already.
Rerooting keeps keys apart, so recording under a key before is recording under the rerooted key
after (`ErrorMap.followedBy_extendAt`).
-/

namespace Scrutiny

namespace Path

/-- A key below another: its first segment goes into brackets, and the rest follows as it is. -/
def reroot (root key : String) : String :=
  root ++ "[" ++ String.ofList (key.toList.takeWhile (· ≠ '[')) ++ "]" ++
    String.ofList (key.toList.dropWhile (· ≠ '['))

/-- The first segment of a key, and what follows it: nothing, or what an opening bracket begins. -/
structure Cut (text first rest : List Char) : Prop where
  whole : text = first ++ rest
  free : '[' ∉ first
  opens : rest = [] ∨ ∃ inner, rest = '[' :: inner

/-- The first part is what stands before the first bracket. -/
theorem Cut.takeWhile {text first rest : List Char} (cut : Cut text first rest) :
    text.takeWhile (· ≠ '[') = first := by
  have kept : ∀ c ∈ first, decide (c ≠ '[') = true := by
    intro c member
    exact decide_eq_true fun same => cut.free (same ▸ member)
  rw [cut.whole, List.takeWhile_append_of_pos kept]
  rcases cut.opens with rfl | ⟨inner, rfl⟩ <;> simp

theorem Cut.dropWhile {text first rest : List Char} (cut : Cut text first rest) :
    text.dropWhile (· ≠ '[') = rest := by
  have whole := cut.whole.symm.trans (List.takeWhile_append_dropWhile (p := (· ≠ '['))).symm
  rw [cut.takeWhile] at whole
  exact (List.append_cancel_left whole).symm

/-- Every text can be cut at its first bracket. -/
theorem exists_cut (text : List Char) : ∃ first rest, Cut text first rest := by
  induction text with
  | nil => exact ⟨[], [], rfl, List.not_mem_nil, .inl rfl⟩
  | cons c cs ih =>
    by_cases opens : c = '['
    · exact ⟨[], c :: cs, rfl, List.not_mem_nil, .inr ⟨cs, by rw [opens]⟩⟩
    · obtain ⟨first, rest, whole, free, further⟩ := ih
      refine ⟨c :: first, rest, by rw [whole, List.cons_append], ?_, further⟩
      exact fun member => (List.mem_cons.mp member).elim (fun same => opens same.symm) free

/-- A rerooted key has its first name in brackets after the root. -/
theorem toList_reroot (root : String) {key : String} {first rest : List Char}
    (cut : Cut key.toList first rest) :
    (reroot root key).toList = root.toList ++ '[' :: (first ++ ']' :: rest) := by
  simp only [reroot, cut.takeWhile, cut.dropWhile, String.toList_append, String.toList_ofList]
  simp

/-- The closing bracket belongs to the first segment of what follows the root. -/
theorem Cut.closed {text first rest : List Char} (cut : Cut text first rest) :
    Cut (first ++ ']' :: rest) (first ++ [']']) rest where
  whole := by simp
  free member := by
    rcases List.mem_append.mp member with member | member
    · exact cut.free member
    · simp at member
  opens := cut.opens

/-- Different keys are rerooted to different keys. -/
theorem reroot_injective {root first second : String}
    (same : reroot root first = reroot root second) : first = second := by
  obtain ⟨start, rest, one⟩ := exists_cut first.toList
  obtain ⟨begin, later, other⟩ := exists_cut second.toList
  have texts := congrArg String.toList same
  rw [toList_reroot root one, toList_reroot root other, List.append_cancel_left_eq,
    List.cons.injEq] at texts
  have starts : start ++ [']'] = begin ++ [']'] := by
    rw [← one.closed.takeWhile, texts.2, other.closed.takeWhile]
  have rests : rest = later := by
    rw [← one.closed.dropWhile, texts.2, other.closed.dropWhile]
  apply String.toList_inj.mp
  rw [one.whole, other.whole, List.append_cancel_right starts, rests]

/-- A rerooted key goes on with a bracket after the root. -/
theorem reroot_eq_append (root key : String) :
    ∃ inner, (reroot root key).toList = root.toList ++ '[' :: inner := by
  obtain ⟨first, rest, cut⟩ := exists_cut key.toList
  exact ⟨_, toList_reroot root cut⟩

/-- A key without brackets is rerooted as a field of the root. -/
theorem reroot_of_free (root : String) {name : String} (free : '[' ∉ name.toList) :
    reroot root name = root ++ "[" ++ name ++ "]" := by
  have cut : Cut name.toList name.toList [] := ⟨by simp, free, .inl rfl⟩
  apply String.toList_inj.mp
  rw [toList_reroot root cut]
  simp

/-- What follows in brackets follows in the rerooted key. -/
theorem reroot_brackets (root key part : String) :
    reroot root (key ++ "[" ++ part ++ "]") = reroot root key ++ "[" ++ part ++ "]" := by
  obtain ⟨first, rest, cut⟩ := exists_cut key.toList
  have longer : Cut (key ++ "[" ++ part ++ "]").toList first
      (rest ++ '[' :: (part.toList ++ [']'])) := by
    refine ⟨by simp [cut.whole], cut.free, .inr ?_⟩
    rcases cut.opens with rfl | ⟨inner, rfl⟩
    · exact ⟨_, rfl⟩
    · exact ⟨_, rfl⟩
  apply String.toList_inj.mp
  rw [toList_reroot root longer]
  simp [toList_reroot root cut]

end Path

namespace Entries

variable {α : Type}

/-- Behind entries that do not have a key, what follows them is looked up. -/
theorem get?_append_of_notMem {first : Entries α} (second : Entries α) {key : String}
    (absent : key ∉ first.keys) : get? (first ++ second) key = get? second key := by
  induction first with
  | nil => rfl
  | cons entry rest ih =>
    obtain ⟨name, value⟩ := entry
    obtain ⟨different, later⟩ := not_or.mp (mt List.mem_cons.mpr absent)
    rw [List.cons_append, get?, if_neg (Ne.symm different), ih later]

/-- Behind entries that do not have a key, what follows them is written to. -/
theorem put_append_of_notMem {first : Entries α} (second : Entries α) {key : String} (value : α)
    (absent : key ∉ first.keys) :
    put (first ++ second) key value = first ++ put second key value := by
  induction first with
  | nil => rfl
  | cons entry rest ih =>
    obtain ⟨name, old⟩ := entry
    obtain ⟨different, later⟩ := not_or.mp (mt List.mem_cons.mpr absent)
    rw [List.cons_append, put, if_neg (Ne.symm different), ih later, List.cons_append]

/-- Entries under other names. -/
def rename (change : String → String) (entries : Entries α) : Entries α :=
  entries.map fun entry => (change entry.1, entry.2)

section Rename

variable {change : String → String}
  (injective : ∀ {first second}, change first = change second → first = second)
include injective

theorem get?_rename (entries : Entries α) (key : String) :
    get? (rename change entries) (change key) = get? entries key := by
  induction entries with
  | nil => rfl
  | cons entry rest ih =>
    obtain ⟨name, value⟩ := entry
    by_cases same : name = key
    · simp [rename, get?, same]
    · have different : change name ≠ change key := mt injective same
      simpa [rename, get?, same, different] using ih

theorem put_rename (entries : Entries α) (key : String) (value : α) :
    put (rename change entries) (change key) value = rename change (put entries key value) := by
  induction entries with
  | nil => rfl
  | cons entry rest ih =>
    obtain ⟨name, old⟩ := entry
    by_cases same : name = key
    · simp [rename, put, same]
    · have different : change name ≠ change key := mt injective same
      simpa [rename, put, same, different] using ih

end Rename

end Entries

namespace ErrorMap

/-- The errors of a part of a tree, under the key of the part. -/
def under (root : String) (errors : ErrorMap) : ErrorMap :=
  ⟨errors.entries.rename (Path.reroot root)⟩

/-- The errors of a map and then those of another, which has other keys. -/
def followedBy (errors further : ErrorMap) : ErrorMap :=
  ⟨errors.entries ++ further.entries⟩

section Under

variable {base : ErrorMap} {root key : String}

/-- A rerooted key has the messages of the part. -/
theorem messages_followedBy (apart : Path.reroot root key ∉ base.keys) (errors : ErrorMap) :
    (base.followedBy (errors.under root)).messages (Path.reroot root key) =
      errors.messages key := by
  have found := Entries.get?_append_of_notMem (errors.under root).entries apart
  exact congrArg (Option.getD · [])
    (found.trans (Entries.get?_rename Path.reroot_injective errors.entries key))

/-- Recording in the part is recording under the rerooted key in the whole. -/
theorem followedBy_extendAt (apart : Path.reroot root key ∉ base.keys) (errors : ErrorMap)
    (messages : List String) :
    base.followedBy ((errors.extendAt key messages).under root) =
      (base.followedBy (errors.under root)).extendAt (Path.reroot root key) messages := by
  by_cases none : messages = []
  · rw [none, extendAt_nil, extendAt_nil]
  · rw [extendAt_of_ne _ _ none, extendAt_of_ne _ _ none, messages_followedBy apart]
    have written := Entries.put_append_of_notMem (errors.under root).entries
      (errors.messages key ++ messages) apart
    refine congrArg mk (Eq.trans ?_ written.symm)
    exact congrArg _ (Entries.put_rename Path.reroot_injective _ _ _).symm

end Under

theorem followedBy_assoc (first second third : ErrorMap) :
    (first.followedBy second).followedBy third = first.followedBy (second.followedBy third) :=
  congrArg mk (List.append_assoc _ _ _)

theorem followedBy_empty (errors : ErrorMap) : errors.followedBy .empty = errors :=
  congrArg mk (List.append_nil _)

/-- The keys of a part come after those that are there, rerooted. -/
theorem keys_followedBy_under (base errors : ErrorMap) (root : String) :
    (base.followedBy (errors.under root)).keys =
      base.keys ++ errors.keys.map (Path.reroot root) := by
  simp [followedBy, under, keys, Entries.keys, Entries.rename]

end ErrorMap

end Scrutiny
