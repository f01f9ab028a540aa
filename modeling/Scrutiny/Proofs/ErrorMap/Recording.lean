import Scrutiny.ErrorMap

/-! # Recording messages

What recording messages under a key does to the rest of what one asks of an error map: to the
messages under other keys, to what lies at or below a key, and to a merge.
-/

namespace Scrutiny

namespace Entries

variable {α : Type}

/-- Leaving entries out does not change what is found under the keys that stay. -/
theorem get?_filter (entries : Entries α) (keep : String → Bool) {key : String}
    (kept : keep key) : get? (entries.filter fun entry => keep entry.1) key = get? entries key := by
  induction entries with
  | nil => rfl
  | cons entry rest ih =>
    obtain ⟨name, value⟩ := entry
    by_cases same : name = key
    · simp [same, kept, get?]
    · by_cases stays : keep name <;> simp [stays, get?, same, ih]

/-- Writing under a key that stays can be done before or after leaving entries out. -/
theorem filter_put_of_keep (entries : Entries α) (keep : String → Bool) {key : String} (value : α)
    (kept : keep key) : (put entries key value).filter (fun entry => keep entry.1) =
      put (entries.filter fun entry => keep entry.1) key value := by
  induction entries with
  | nil => simp [put, kept]
  | cons entry rest ih =>
    obtain ⟨name, old⟩ := entry
    by_cases same : name = key
    · simp [put, same, kept]
    · by_cases stays : keep name <;> simp [put, same, stays, ih]

/-- Writing under a key that is left out makes no difference. -/
theorem filter_put_of_drop (entries : Entries α) (keep : String → Bool) {key : String} (value : α)
    (dropped : keep key = false) : (put entries key value).filter (fun entry => keep entry.1) =
      entries.filter fun entry => keep entry.1 := by
  induction entries with
  | nil => simp [put, dropped]
  | cons entry rest ih =>
    obtain ⟨name, old⟩ := entry
    by_cases same : name = key
    · simp [put, same, dropped]
    · by_cases stays : keep name <;> simp [put, same, stays, ih]

/-- What is found under a key is an entry. -/
theorem mem_of_get? {entries : Entries α} {key : String} {value : α}
    (found : get? entries key = some value) : (key, value) ∈ entries := by
  induction entries with
  | nil => exact absurd found (by simp [get?])
  | cons entry rest ih =>
    obtain ⟨name, old⟩ := entry
    rw [get?] at found
    split at found
    · next same =>
      rw [same, Option.some.inj found]
      exact List.mem_cons_self
    · exact List.mem_cons_of_mem _ (ih found)

/-- A key under which something is found is one of the keys. -/
theorem mem_keys_of_get? {entries : Entries α} {key : String} {value : α}
    (found : get? entries key = some value) : key ∈ entries.keys :=
  List.mem_map_of_mem (mem_of_get? found)

/-- Where keys are different, each entry is found under its key. -/
theorem get?_of_mem {entries : Entries α} (distinct : entries.keys.Nodup)
    {entry : String × α} (member : entry ∈ entries) : entries.get? entry.1 = some entry.2 := by
  induction entries with
  | nil => exact absurd member List.not_mem_nil
  | cons first rest ih =>
    obtain ⟨apart, distinct⟩ := List.nodup_cons.mp distinct
    rcases List.mem_cons.mp member with rfl | later
    · rw [get?, if_pos rfl]
    · have different : first.1 ≠ entry.1 := fun same => apart (same ▸ List.mem_map_of_mem later)
      rw [get?, if_neg different, ih distinct later]

/-- Nothing is found just where the key is missing. -/
theorem get?_eq_none_iff {entries : Entries α} {key : String} :
    get? entries key = none ↔ key ∉ entries.keys := by
  induction entries with
  | nil => simp [get?, keys]
  | cons entry rest ih =>
    obtain ⟨name, value⟩ := entry
    by_cases same : name = key
    · simp [get?, keys, same]
    · rw [get?, if_neg same, ih]
      simp [keys, Ne.symm same]

/-- What is left under a name once the entries under some names have been dropped. -/
theorem get?_filter_eq (entries : Entries α) (keep : String → Bool) (key : String) :
    get? (entries.filter fun entry => keep entry.1) key =
      if keep key then entries.get? key else none := by
  split
  · next kept => exact get?_filter entries keep kept
  · next dropped =>
    refine get?_eq_none_iff.mpr fun member => ?_
    obtain ⟨entry, listed, rfl⟩ := List.mem_map.mp member
    exact dropped (List.mem_filter.mp listed).2

theorem exists_get?_of_mem_keys {entries : Entries α} {key : String}
    (present : key ∈ entries.keys) : ∃ value, entries.get? key = some value := by
  apply Option.ne_none_iff_exists'.mp
  intro missing
  exact get?_eq_none_iff.mp missing present

/-- Each of the keys is said to be there. -/
theorem has_of_mem_keys {entries : Entries α} {key : String} (present : key ∈ entries.keys) :
    entries.has key := by
  obtain ⟨value, found⟩ := exists_get?_of_mem_keys present
  rw [has, found, Option.isSome_some]

theorem keys_append (first rest : Entries α) :
    (first ++ rest : Entries α).keys = first.keys ++ rest.keys :=
  List.map_append

/-- Writing under a key that is there leaves the keys and their order. -/
theorem keys_put_of_mem {entries : Entries α} {key : String} (value : α)
    (present : key ∈ entries.keys) : (put entries key value).keys = entries.keys := by
  induction entries with
  | nil => exact absurd present List.not_mem_nil
  | cons entry rest ih =>
    obtain ⟨name, old⟩ := entry
    by_cases same : name = key
    · simp [put, keys, same]
    · have later : key ∈ keys rest := (List.mem_cons.mp present).resolve_left (Ne.symm same)
      rw [put, if_neg same]
      exact congrArg (name :: ·) (ih later)

/-- Writing under a new key puts an entry at the end. -/
theorem put_of_notMem {entries : Entries α} {key : String} (value : α)
    (absent : key ∉ entries.keys) : put entries key value = entries ++ [(key, value)] := by
  induction entries with
  | nil => rfl
  | cons entry rest ih =>
    obtain ⟨name, old⟩ := entry
    obtain ⟨different, later⟩ := not_or.mp (mt List.mem_cons.mpr absent)
    rw [put, if_neg (Ne.symm different), ih later, List.cons_append]

/-- Writing under a new key puts this key at the end. -/
theorem keys_put_of_notMem {entries : Entries α} {key : String} (value : α)
    (absent : key ∉ entries.keys) : (put entries key value).keys = entries.keys ++ [key] := by
  rw [put_of_notMem value absent]
  exact List.map_append

theorem nodup_put {entries : Entries α} (distinct : entries.keys.Nodup) (key : String) (value : α) :
    (put entries key value).keys.Nodup := by
  by_cases present : key ∈ entries.keys
  · rwa [keys_put_of_mem value present]
  · rw [keys_put_of_notMem value present]
    refine List.nodup_append.mpr ⟨distinct, by simp, ?_⟩
    rintro other member _ single rfl
    exact present (List.mem_singleton.mp single ▸ member)

/-- Each entry after writing is an old one or the new one. -/
theorem mem_put {entries : Entries α} {key : String} {value : α} {entry : String × α}
    (member : entry ∈ put entries key value) : entry ∈ entries ∨ entry = (key, value) := by
  induction entries with
  | nil => exact .inr (List.mem_singleton.mp member)
  | cons first rest ih =>
    obtain ⟨name, old⟩ := first
    by_cases same : name = key
    · rw [put, if_pos same, same] at member
      rcases List.mem_cons.mp member with here | later
      · exact .inr here
      · exact .inl (List.mem_cons_of_mem _ later)
    · rw [put, if_neg same] at member
      rcases List.mem_cons.mp member with here | later
      · exact .inl (here ▸ List.mem_cons_self)
      · exact (ih later).imp_left (List.mem_cons_of_mem _)

/-- Writing what is there changes nothing. -/
theorem put_of_get? {entries : Entries α} {key : String} {value : α}
    (held : entries.get? key = some value) : entries.put key value = entries := by
  induction entries with
  | nil => exact absurd held (by simp [get?])
  | cons entry rest ih =>
    obtain ⟨name, old⟩ := entry
    by_cases same : name = key
    · simp only [get?, same, ↓reduceIte, Option.some.injEq] at held
      simp only [put, same, held, ↓reduceIte]
    · simp only [get?, same, ↓reduceIte] at held
      simp only [put, same, ↓reduceIte, ih held]

/-- Writing twice under a key leaves what is written last. -/
theorem put_put (entries : Entries α) (key : String) (value later : α) :
    put (put entries key value) key later = put entries key later := by
  induction entries with
  | nil => simp [put]
  | cons entry rest ih =>
    obtain ⟨name, old⟩ := entry
    by_cases same : name = key <;> simp [put, same, ih]

/-- A name that is present keeps its place whatever is written before. -/
theorem put_comm {entries : Entries α} {key other : String} (value later : α)
    (present : key ∈ entries.keys) (different : other ≠ key) :
    put (put entries other later) key value = put (put entries key value) other later := by
  induction entries with
  | nil => exact absurd present List.not_mem_nil
  | cons entry rest ih =>
    obtain ⟨name, old⟩ := entry
    by_cases same : name = key
    · simp [put, same, Ne.symm different]
    · have further : key ∈ keys rest := (List.mem_cons.mp present).resolve_left (Ne.symm same)
      by_cases found : name = other
      · simp [put, found, different]
      · simp [put, same, found, ih further]

end Entries

namespace ErrorMap

/-- The messages under a key, none if there is no such key. -/
def messages (errors : ErrorMap) (key : String) : List String :=
  (errors.get? key).getD []

/-- There are errors under a key if it has a message. -/
theorem has_eq (errors : ErrorMap) (key : String) :
    errors.has key = !(errors.messages key).isEmpty := by
  unfold has messages
  cases errors.get? key <;> rfl

theorem extendAt_nil (errors : ErrorMap) (key : String) : errors.extendAt key [] = errors := rfl

/-- Recording some messages puts them behind those that the key has. -/
theorem extendAt_of_ne (errors : ErrorMap) (key : String) {messages : List String}
    (some : messages ≠ []) : errors.extendAt key messages =
      ⟨errors.entries.put key (errors.messages key ++ messages)⟩ := by
  simp [extendAt, some, ErrorMap.messages]

/-- The key has the new messages after its old ones. -/
theorem messages_extendAt_self (errors : ErrorMap) (key : String) (messages : List String) :
    (errors.extendAt key messages).messages key = errors.messages key ++ messages := by
  by_cases none : messages = []
  · rw [none, extendAt_nil, List.append_nil]
  · rw [extendAt_of_ne _ _ none, ErrorMap.messages, get?, Entries.get?_put_self, Option.getD_some]

/-- Under other keys the same is found as before. -/
theorem get?_extendAt_of_ne (errors : ErrorMap) {key other : String} (messages : List String)
    (different : other ≠ key) : (errors.extendAt key messages).get? other = errors.get? other := by
  by_cases none : messages = []
  · rw [none, extendAt_nil]
  · rw [extendAt_of_ne _ _ none]
    exact Entries.get?_put_of_ne _ _ different

theorem messages_extendAt_of_ne (errors : ErrorMap) {key other : String} (messages : List String)
    (different : other ≠ key) :
    (errors.extendAt key messages).messages other = errors.messages other := by
  rw [ErrorMap.messages, get?_extendAt_of_ne errors messages different, ErrorMap.messages]

/-- No errors are left just where there were none and none are recorded. -/
theorem isEmpty_extendAt (errors : ErrorMap) (key : String) (messages : List String) :
    (errors.extendAt key messages).isEmpty ↔ errors.isEmpty ∧ messages = [] := by
  by_cases none : messages = []
  · simp [none, extendAt_nil]
  · rw [extendAt_of_ne _ _ none, isEmpty, List.isEmpty_iff]
    refine iff_of_false ?_ fun both => none both.2
    cases errors.entries with
    | nil => simp [Entries.put]
    | cons entry rest =>
      rw [Entries.put]
      split <;> simp

/-- A key that is new goes behind the others. -/
theorem keys_extendAt (errors : ErrorMap) (key : String) {messages : List String}
    (some : messages ≠ []) : (errors.extendAt key messages).keys =
      if key ∈ errors.keys then errors.keys else errors.keys ++ [key] := by
  rw [extendAt_of_ne _ _ some]
  split
  · next present => exact Entries.keys_put_of_mem _ present
  · next absent => exact Entries.keys_put_of_notMem _ absent

/-- Recording adds no key but the one that it is under. -/
theorem mem_keys_extendAt {errors : ErrorMap} {key other : String} {messages : List String}
    (member : other ∈ (errors.extendAt key messages).keys) : other ∈ errors.keys ∨ other = key := by
  by_cases none : messages = []
  · rw [none, extendAt_nil] at member
    exact .inl member
  · rw [keys_extendAt _ _ none] at member
    split at member
    · exact .inl member
    · exact (List.mem_append.mp member).imp_right List.mem_singleton.mp

/-- Recording leaves the keys there, in their order, and puts a new one at the end. -/
theorem keys_prefix_extendAt (errors : ErrorMap) (key : String) (messages : List String) :
    errors.keys <+: (errors.extendAt key messages).keys := by
  by_cases none : messages = []
  · subst none
    exact List.prefix_rfl
  · rw [keys_extendAt _ _ none]
    split
    · exact List.prefix_rfl
    · exact List.prefix_append _ _

/-- What is recorded below a key is recorded there in what lies below the key. -/
theorem subtree_extendAt (errors : ErrorMap) (key parent : String) (messages : List String) :
    (errors.extendAt key messages).subtree parent =
      if Path.isUnder key parent then (errors.subtree parent).extendAt key messages
      else errors.subtree parent := by
  by_cases none : messages = []
  · simp [none, extendAt_nil]
  · rw [extendAt_of_ne _ _ none, extendAt_of_ne _ _ none]
    split
    · next under =>
      have same : (errors.subtree parent).messages key = errors.messages key :=
        congrArg (Option.getD · []) (Entries.get?_filter _ (Path.isUnder · parent) under)
      rw [same]
      exact congrArg mk (Entries.filter_put_of_keep _ (Path.isUnder · parent) _ under)
    · next beside =>
      exact congrArg mk (Entries.filter_put_of_drop _ (Path.isUnder · parent) _
        (Bool.eq_false_iff.mpr beside))

/-- A map that messages have been recorded in one batch after another: every key stands once and
has a message. -/
structure Recorded (errors : ErrorMap) : Prop where
  distinct : errors.keys.Nodup
  inhabited : ∀ entry ∈ errors.entries, entry.2 ≠ []

theorem Recorded.empty : Recorded .empty where
  distinct := List.nodup_nil
  inhabited _ member := absurd member List.not_mem_nil

/-- Recording keeps the keys different and every key with a message. -/
theorem Recorded.extendAt {errors : ErrorMap} (recorded : errors.Recorded) (key : String)
    (messages : List String) : (errors.extendAt key messages).Recorded := by
  by_cases none : messages = []
  · rwa [none, extendAt_nil]
  rw [extendAt_of_ne _ _ none]
  constructor
  · exact Entries.nodup_put recorded.distinct key _
  · intro entry member
    rcases Entries.mem_put member with old | rfl
    · exact recorded.inhabited entry old
    · exact fun empty => none (List.append_eq_nil_iff.mp empty).2

/-- A key that messages are recorded under is there afterwards. -/
theorem self_mem_keys_extendAt (errors : ErrorMap) (key : String) {messages : List String}
    (some : messages ≠ []) : key ∈ (errors.extendAt key messages).keys := by
  rw [keys_extendAt _ _ some]
  split
  · assumption
  · exact List.mem_append_right _ List.mem_cons_self

/-- Recording twice under a key is recording all at once. -/
theorem extendAt_extendAt (errors : ErrorMap) (key : String) (messages later : List String) :
    (errors.extendAt key messages).extendAt key later =
      errors.extendAt key (messages ++ later) := by
  by_cases none : messages = []
  · rw [none, extendAt_nil, List.nil_append]
  by_cases nothing : later = []
  · rw [nothing, extendAt_nil, List.append_nil]
  have both : messages ++ later ≠ [] := fun empty => none (List.append_eq_nil_iff.mp empty).1
  rw [extendAt_of_ne _ _ nothing, messages_extendAt_self, extendAt_of_ne _ _ none,
    Entries.put_put, List.append_assoc, extendAt_of_ne _ _ both]

/-- Recordings under different keys can change places, if the key that comes second is there
already. -/
theorem extendAt_comm {errors : ErrorMap} {key other : String} (messages later : List String)
    (present : key ∈ errors.keys) (different : other ≠ key) :
    (errors.extendAt other later).extendAt key messages =
      (errors.extendAt key messages).extendAt other later := by
  by_cases none : messages = []
  · rw [none, extendAt_nil, extendAt_nil]
  by_cases nothing : later = []
  · rw [nothing, extendAt_nil, extendAt_nil]
  rw [extendAt_of_ne (errors.extendAt other later) key none,
    messages_extendAt_of_ne _ _ (Ne.symm different), extendAt_of_ne errors other nothing,
    extendAt_of_ne (errors.extendAt key messages) other nothing,
    messages_extendAt_of_ne _ _ different, extendAt_of_ne errors key none,
    Entries.put_comm _ _ present different]

theorem merge_cons (errors : ErrorMap) (name : String) (messages : List String)
    (rest : Entries (List String)) :
    errors.merge ⟨(name, messages) :: rest⟩ = (errors.extendAt name messages).merge ⟨rest⟩ := rfl

/-- Messages for the first key go to its entry. -/
theorem extendAt_cons_self (name : String) (old : List String) (rest : Entries (List String))
    (messages : List String) : extendAt ⟨(name, old) :: rest⟩ name messages =
      ⟨(name, old ++ messages) :: rest⟩ := by
  by_cases none : messages = []
  · rw [none, extendAt_nil, List.append_nil]
  · rw [extendAt_of_ne _ _ none]
    simp [Entries.put, ErrorMap.messages, get?, Entries.get?]

/-- Messages for another key go past the first entry. -/
theorem extendAt_cons_of_ne {name key : String} (old : List String) (rest : Entries (List String))
    (messages : List String) (different : name ≠ key) :
    extendAt ⟨(name, old) :: rest⟩ key messages =
      ⟨(name, old) :: (extendAt ⟨rest⟩ key messages).entries⟩ := by
  by_cases none : messages = []
  · rw [none, extendAt_nil, extendAt_nil]
  · rw [extendAt_of_ne _ _ none, extendAt_of_ne _ _ none]
    simp [Entries.put, ErrorMap.messages, get?, Entries.get?, different]

/-- Messages under a key that is there already can be added before a merge that does not touch
it. -/
theorem merge_extendAt_of_notMem {errors : ErrorMap} {rest : Entries (List String)} {key : String}
    (messages : List String) (present : key ∈ errors.keys) (untouched : key ∉ rest.keys) :
    (errors.extendAt key messages).merge ⟨rest⟩ =
      (errors.merge ⟨rest⟩).extendAt key messages := by
  induction rest generalizing errors with
  | nil => rfl
  | cons entry rest ih =>
    obtain ⟨name, old⟩ := entry
    obtain ⟨different, later⟩ := not_or.mp (mt List.mem_cons.mpr untouched)
    rw [merge_cons, merge_cons, ← extendAt_comm _ _ present (Ne.symm different)]
    exact ih ((keys_prefix_extendAt errors name old).subset present) later

/-- **Recording commutes with merging.** Messages recorded into a map and merged into a seed are
recorded into the seed. -/
theorem merge_extendAt (seed : ErrorMap) {errors : ErrorMap} (recorded : errors.Recorded)
    (key : String) (messages : List String) :
    seed.merge (errors.extendAt key messages) = (seed.merge errors).extendAt key messages := by
  obtain ⟨entries⟩ := errors
  induction entries generalizing seed with
  | nil =>
    by_cases none : messages = []
    · rw [none, extendAt_nil, extendAt_nil]
    · rw [extendAt_of_ne _ _ none]
      rfl
  | cons entry rest ih =>
    obtain ⟨name, old⟩ := entry
    obtain ⟨alone, distinct⟩ := List.nodup_cons.mp recorded.distinct
    have some : old ≠ [] := recorded.inhabited _ List.mem_cons_self
    by_cases same : name = key
    · subst same
      rw [extendAt_cons_self, merge_cons, merge_cons, ← extendAt_extendAt]
      exact merge_extendAt_of_notMem _ (self_mem_keys_extendAt seed name some) alone
    · rw [extendAt_cons_of_ne _ _ _ same, merge_cons, merge_cons]
      exact ih _ ⟨distinct, fun entry member =>
        recorded.inhabited entry (List.mem_cons_of_mem _ member)⟩

/-- A merge appends, under every key, the messages of the second map to those of the first. -/
theorem messages_merge (seed : ErrorMap) {errors : ErrorMap} (recorded : errors.Recorded)
    (key : String) :
    (seed.merge errors).messages key = seed.messages key ++ errors.messages key := by
  obtain ⟨entries⟩ := errors
  induction entries generalizing seed with
  | nil => exact (List.append_nil _).symm
  | cons entry rest ih =>
    obtain ⟨name, old⟩ := entry
    obtain ⟨alone, distinct⟩ := List.nodup_cons.mp recorded.distinct
    rw [merge_cons, ih _ ⟨distinct, fun entry member =>
      recorded.inhabited entry (List.mem_cons_of_mem _ member)⟩]
    by_cases same : name = key
    · subst same
      have absent : Entries.get? rest name = none := Entries.get?_eq_none_iff.mpr alone
      rw [messages_extendAt_self]
      simp [messages, get?, Entries.get?, absent]
    · rw [messages_extendAt_of_ne _ _ (Ne.symm same)]
      simp [messages, get?, Entries.get?, same]

/-- A merge keeps the keys of the first map in front. -/
theorem keys_prefix_merge (seed errors : ErrorMap) : seed.keys <+: (seed.merge errors).keys := by
  obtain ⟨entries⟩ := errors
  induction entries generalizing seed with
  | nil => exact List.prefix_rfl
  | cons entry rest ih =>
    exact (keys_prefix_extendAt seed entry.1 entry.2).trans (ih _)

end ErrorMap

end Scrutiny
