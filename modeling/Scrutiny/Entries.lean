/-! # Entries in insertion order

A finite map from names to values that remembers when each name first arrived. Writing under a
name that is present keeps its place; writing under a new name appends it.
-/

namespace Scrutiny

/-- Pairs of a name and a value, in the order in which the names first arrived. -/
abbrev Entries (α : Type) := List (String × α)

namespace Entries

variable {α β : Type}

/-- The value stored under a name. -/
def get? : Entries α → String → Option α
  | [], _ => none
  | (name, value) :: rest, key => if name = key then some value else get? rest key

/-- Whether a name is present. -/
def has (entries : Entries α) (key : String) : Bool :=
  (entries.get? key).isSome

/-- Store a value under a name: in place if the name is present, at the end otherwise. -/
def put : Entries α → String → α → Entries α
  | [], key, value => [(key, value)]
  | (name, old) :: rest, key, value =>
    if name = key then (name, value) :: rest else (name, old) :: put rest key value

/-- Drop a name and its value. -/
def drop (entries : Entries α) (key : String) : Entries α :=
  entries.filter fun entry => entry.1 ≠ key

/-- The names, in order. -/
def keys (entries : Entries α) : List String :=
  entries.map Prod.fst

/-- The values, in order. -/
def values (entries : Entries α) : List α :=
  entries.map Prod.snd

/-- Collect pairs, a later value replacing an earlier one under the same name. -/
def collect (pairs : List (String × α)) : Entries α :=
  pairs.foldl (fun entries pair => put entries pair.1 pair.2) []

/-- Apply a function to every value. -/
def mapValues (f : α → β) (entries : Entries α) : Entries β :=
  entries.map fun entry => (entry.1, f entry.2)

theorem get?_put_self (entries : Entries α) (key : String) (value : α) :
    (put entries key value).get? key = some value := by
  induction entries with
  | nil => simp [put, get?]
  | cons entry rest ih =>
    obtain ⟨name, old⟩ := entry
    by_cases same : name = key <;> simp [put, get?, same, ih]

theorem get?_put_of_ne (entries : Entries α) {key other : String} (value : α)
    (different : other ≠ key) : (put entries key value).get? other = entries.get? other := by
  induction entries with
  | nil => simp [put, get?, Ne.symm different]
  | cons entry rest ih =>
    obtain ⟨name, old⟩ := entry
    by_cases same : name = key
    · subst same
      simp [put, get?, Ne.symm different]
    · by_cases found : name = other
      · subst found
        simp [put, get?, same]
      · simp [put, get?, same, found, ih]

/-- Entries made of names hold what each name was given. -/
theorem get?_map (f : String → α) {names : List String} {name : String} (member : name ∈ names) :
    get? (names.map fun name => (name, f name)) name = some (f name) := by
  induction names with
  | nil => exact absurd member List.not_mem_nil
  | cons first rest ih =>
    by_cases same : first = name
    · simp only [List.map_cons, get?, same, ↓reduceIte]
    · simp only [List.map_cons, get?, same, ↓reduceIte]
      exact ih ((List.mem_cons.mp member).resolve_left (Ne.symm same))

theorem get?_append (first rest : Entries α) (key : String) :
    get? (first ++ rest) key = (first.get? key).or (rest.get? key) := by
  induction first with
  | nil => rfl
  | cons entry others ih =>
    obtain ⟨name, value⟩ := entry
    by_cases same : name = key
    · simp only [List.cons_append, get?, same, ↓reduceIte, Option.some_or]
    · simp only [List.cons_append, get?, same, ↓reduceIte, ih]

theorem get?_mapValues (f : α → β) (entries : Entries α) (key : String) :
    (entries.mapValues f).get? key = (entries.get? key).map f := by
  induction entries with
  | nil => rfl
  | cons entry rest ih =>
    obtain ⟨name, value⟩ := entry
    by_cases same : name = key
    · simp only [mapValues, List.map_cons, get?, same, ↓reduceIte, Option.map_some]
    · simp only [mapValues, List.map_cons, get?, same, ↓reduceIte]
      exact ih

theorem mem_keys_of_has {entries : Entries α} {key : String} (present : entries.has key) :
    key ∈ entries.keys := by
  induction entries with
  | nil => simp [has, get?] at present
  | cons entry rest ih =>
    obtain ⟨name, value⟩ := entry
    by_cases same : name = key
    · simp [keys, same]
    · have later : Entries.has rest key := by simpa [has, get?, same] using present
      exact List.mem_cons_of_mem _ (ih later)

end Entries

end Scrutiny
