import Mathlib.Data.Set.Card
import Scrutiny.Proofs.Record.RoundTrip
import Scrutiny.Proofs.Walk.Account

/-! # Counting messages

Adding messages never makes a key without one. So in a map that is made by adding, merging and
restricting, the number of keys is the number of keys that hold a message, and there is no key at or
below a place exactly if there is no message there. The only other way to make a map is to give it
as a whole, by pairs or by a document, and there a key may come with no message at all. Where none
does, a report is invalid and a `failed` hook is called only for the sake of a message
(`ErrorMap.Made.counts_messages`).
-/

namespace Scrutiny

theorem Entries.nodup_collect {α : Type} (pairs : List (String × α)) :
    (collect pairs).keys.Nodup := by
  refine List.foldlRecOn (motive := fun entries => (keys entries).Nodup) pairs _ List.nodup_nil ?_
  intro entries distinct pair _
  exact nodup_put distinct pair.1 pair.2

namespace ErrorMap

/-- Every key has a message. -/
def Filled (errors : ErrorMap) : Prop :=
  ∀ entry ∈ errors.entries, entry.2 ≠ []

instance (errors : ErrorMap) : Decidable errors.Filled :=
  inferInstanceAs (Decidable (∀ entry ∈ errors.entries, entry.2 ≠ []))

/-- The maps that can be made. Those that are given as a whole have a property. -/
inductive Made (given : ErrorMap → Prop) : ErrorMap → Prop
  | empty : Made given .empty
  | ofPairs {pairs : List (String × List String)} :
      given (.ofPairs pairs) → Made given (.ofPairs pairs)
  | ofDocument {document : Document} {errors : ErrorMap} :
      ofDocument? document = some errors → given errors → Made given errors
  | push {errors : ErrorMap} (key message : String) :
      Made given errors → Made given (errors.push key message)
  | extendAt {errors : ErrorMap} (key : String) (messages : List String) :
      Made given errors → Made given (errors.extendAt key messages)
  | merge {errors other : ErrorMap} :
      Made given errors → Made given other → Made given (errors.merge other)
  | subtree {errors : ErrorMap} (parent : String) :
      Made given errors → Made given (errors.subtree parent)

/-- A map that is read from a document has every key once. -/
theorem nodup_ofDocument? {document : Document} {errors : ErrorMap}
    (read : ofDocument? document = some errors) : errors.keys.Nodup := by
  obtain ⟨entries, found, rfl⟩ := Option.map_eq_some_iff.mp read
  unfold Document.entries? at found
  split at found
  · obtain ⟨pairs, _, rfl⟩ := Option.map_eq_some_iff.mp found
    exact Entries.nodup_collect pairs
  · split at found
    · obtain rfl := Option.some.inj found
      exact List.nodup_nil
    · exact absurd found (by simp)
  · exact absurd found (by simp)

namespace Recorded

variable {errors : ErrorMap} (recorded : errors.Recorded)

include recorded

/-- A merge into a recorded map is recorded, whatever is merged. -/
theorem merge (other : ErrorMap) : (errors.merge other).Recorded :=
  List.foldlRecOn other.entries _ recorded fun _ fine entry _ => fine.extendAt entry.1 entry.2

/-- What lies at or below a key in a recorded map is recorded. -/
theorem subtree (parent : String) : (errors.subtree parent).Recorded where
  distinct := recorded.distinct.sublist (List.filter_sublist.map _)
  inhabited entry member := recorded.inhabited entry (List.mem_of_mem_filter member)

/-- The keys are those that hold a message. -/
theorem has_iff {key : String} : errors.has key ↔ key ∈ errors.keys := by
  constructor
  · intro present
    refine Entries.mem_keys_of_has (Option.isSome_iff_ne_none.mpr fun absent => ?_)
    rw [has, get?, absent] at present
    exact absurd present (by simp)
  · intro member
    obtain ⟨entry, listed, rfl⟩ := List.mem_map.mp member
    have found : errors.get? entry.1 = some entry.2 := Entries.get?_of_mem recorded.distinct listed
    simp [has, found, recorded.inhabited entry listed]

/-- The size of a recorded map is the number of keys that hold a message. -/
theorem size_eq_ncard : errors.size = {key | errors.has key}.ncard := by
  have keys : {key | errors.has key} = (errors.keys.toFinset : Set String) := by
    ext key
    simp [recorded.has_iff]
  rw [keys, Set.ncard_coe_finset, List.toFinset_card_of_nodup recorded.distinct]
  exact (List.length_map Prod.fst).symm

/-- Nothing is recorded at a key or below it if there is no message there. -/
theorem isEmpty_subtree (parent : String) :
    (errors.subtree parent).isEmpty = !errors.hasUnder parent := by
  rw [Bool.eq_iff_iff, isEmpty, ErrorMap.subtree, List.isEmpty_iff, List.filter_eq_nil_iff,
    Bool.not_eq_true', hasUnder, List.any_eq_false]
  refine forall₂_congr fun entry listed => ?_
  simp [recorded.inhabited entry listed]

/-- A recorded map is empty if there is no message at or below the root. -/
theorem isEmpty_eq : errors.isEmpty = !errors.hasUnder "" := by
  have whole : errors.subtree "" = errors :=
    congrArg ErrorMap.mk (List.filter_eq_self.mpr fun _ _ => rfl)
  rw [← recorded.isEmpty_subtree, whole]

end Recorded

/-- Restricting a map to a place keeps what is asked for this place. -/
theorem hasUnder_subtree (errors : ErrorMap) (parent : String) :
    (errors.subtree parent).hasUnder parent = errors.hasUnder parent := by
  rw [hasUnder, subtree, List.any_filter, hasUnder]
  refine congrArg (List.any errors.entries) (funext fun entry => ?_)
  cases Path.isUnder entry.1 parent <;> simp

/-- A map that is made without empty lists is recorded. -/
theorem Made.recorded {errors : ErrorMap} (made : errors.Made Filled) : errors.Recorded := by
  induction made with
  | empty => exact .empty
  | ofPairs filled => exact ⟨Entries.nodup_collect _, filled⟩
  | ofDocument read filled => exact ⟨nodup_ofDocument? read, filled⟩
  | push key message _ ih => exact ih.extendAt key [message]
  | extendAt key messages _ ih => exact ih.extendAt key messages
  | merge _ _ ih => exact ih.merge _
  | subtree parent _ ih => exact ih.subtree parent

end ErrorMap

namespace Walk

theorem Deed.recorded_foldl {errors : ErrorMap} (recorded : errors.Recorded) (done : List Deed) :
    (done.foldl Deed.record errors).Recorded := by
  refine List.foldlRecOn done _ recorded fun errors fine deed _ => ?_
  cases deed with
  | trial called => exact fine.extendAt _ _
  | _ => exact fine

/-- A node has failed only if there is a message at it or below it. -/
theorem Act.hasUnder_of_failed {setting : Setting} {errors own : ErrorMap}
    (recorded : errors.Recorded) {act : Act} {site : Site} {failure : Option Failure}
    (left : .leave site (.failed own) failure ∈ act.deeds setting errors) :
    own.hasUnder site.path := by
  cases act with
  | enter => exact absurd left (by simp [deeds])
  | inspect => exact absurd left (by simp [deeds])
  | leave place shape values =>
    by_cases clean : (errors.subtree place.path).isEmpty
    · exact absurd left (by simp [deeds, clean])
    · rw [deeds, if_neg clean] at left
      cases List.mem_singleton.mp left
      rw [recorded.isEmpty_subtree] at clean
      rw [ErrorMap.hasUnder_subtree]
      simpa using clean

/-- Where the hook `failed` is called, there is a message at or below the key of the entity. -/
theorem hasUnder_of_failed (setting : Setting) {errors own : ErrorMap} (recorded : errors.Recorded)
    {acts : List Act} {site : Site} {failure : Option Failure}
    (left : .leave site (.failed own) failure ∈ deeds setting acts errors) :
    own.hasUnder site.path := by
  induction acts generalizing errors with
  | nil => exact absurd left List.not_mem_nil
  | cons act rest ih =>
    rw [deeds] at left
    split at left
    · rcases List.mem_append.mp left with here | later
      · exact act.hasUnder_of_failed recorded here
      · exact ih (Deed.recorded_foldl recorded _) later
    · exact act.hasUnder_of_failed recorded left

end Walk

/-- **Counting messages.** Let an error map be made by adding, merging and restricting, starting
from maps in which every key has a message. Then its size is the number of keys that hold a message,
it is empty exactly if there is no message anywhere, and what is recorded at a key and below it is
empty exactly if there is no message there. If the map is the seed of a validation, whatever the
entity does, the report is invalid exactly if there is a message, and a `failed` hook is called for
an entity only with a message at its path or below it. -/
theorem ErrorMap.Made.counts_messages {errors : ErrorMap} (made : errors.Made Filled) :
    errors.size = {key | errors.has key}.ncard ∧
      errors.isEmpty = !errors.hasUnder "" ∧
      (∀ parent, (errors.subtree parent).isEmpty = !errors.hasUnder parent) ∧
      ∀ conduct messages scope entity,
        let walk := validate conduct messages scope errors entity
        (∀ report, walk.outcome = .ok report → report.isValid = !report.errors.hasUnder "") ∧
          ∀ path name own, .hook path name scope (.failed own) ∈ walk.events →
            own.hasUnder path := by
  have recorded := made.recorded
  refine ⟨recorded.size_eq_ncard, recorded.isEmpty_eq, recorded.isEmpty_subtree,
    fun conduct messages scope entity => ?_⟩
  obtain ⟨events, outcome⟩ := validate_eq_told conduct messages scope errors entity
  constructor
  · intro report done
    rw [outcome] at done
    have left := Stretch.errors_of_outcome done
    have kept : report.errors.Recorded := left ▸ Walk.Deed.recorded_foldl recorded _
    exact kept.isEmpty_eq
  · intro path name own called
    rw [events] at called
    obtain ⟨deed, listed, same⟩ := List.mem_map.mp called
    cases deed with
    | leave site hook failure =>
      obtain ⟨rfl, _, _, rfl⟩ := Event.hook.inj same
      exact Walk.hasUnder_of_failed _ recorded listed
    | enter site failure => exact absurd (Event.hook.inj same).2.2.2 (by simp)
    | _ => exact absurd same (by simp [Walk.Deed.event])

/-- The first line of an order has failed before, the order with it. -/
theorem ErrorMap.Made.counts_messages_filledOrder :
    let errors := ((ErrorMap.ofPairs [("lines[0][qty]", ["too few"])]).push "id" "taken").subtree
      "lines"
    let walk := validate .record ⟨[]⟩ .save errors Entity.filledOrder
    errors.Made Filled ∧ errors.size = 1 ∧ {key | errors.has key}.ncard = 1 ∧
      walk.outcome = .ok ⟨errors, false⟩ ∧ errors.hasUnder "" ∧
      walk.events[2]? = some (.hook "lines[0]" "line" .save (.failed errors)) ∧
      errors.hasUnder "lines[0]" := by
  intro errors walk
  have given : (ErrorMap.ofPairs [("lines[0][qty]", ["too few"])]).Filled := by decide
  have made : errors.Made Filled := ((Made.ofPairs given).push "id" "taken").subtree "lines"
  obtain ⟨counted, _, _, validated⟩ := made.counts_messages
  obtain ⟨reports, fails⟩ := validated .record ⟨[]⟩ .save Entity.filledOrder
  have done : walk.outcome = .ok ⟨errors, false⟩ := rfl
  have second : walk.events[2]? = some (.hook "lines[0]" "line" .save (.failed errors)) := rfl
  have somewhere : errors.hasUnder "" := by
    rw [← Bool.not_eq_false', ← reports _ done]
    rfl
  exact ⟨made, rfl, counted ▸ rfl, done, somewhere, second,
    fails _ _ _ (List.mem_of_getElem? second)⟩

/-- A key that is given without a message counts, and it makes a report invalid and an entity
fail. -/
theorem ErrorMap.Made.counts_no_message :
    let errors := ErrorMap.ofPairs [("qty", [])]
    let walk := validate .record ⟨[]⟩ .save errors (Entity.fresh Entity.lineShape)
    errors.Made (fun _ => True) ∧ errors.size = 1 ∧ {key | errors.has key}.ncard = 0 ∧
      errors.isEmpty = false ∧ errors.hasUnder "" = false ∧
      (errors.subtree "qty").isEmpty = false ∧ errors.hasUnder "qty" = false ∧
      walk.outcome = .ok ⟨errors, false⟩ ∧ Report.isValid ⟨errors, false⟩ = false ∧
      walk.events = [.hook "" "line" .save .before, .hook "" "line" .save (.failed errors)] := by
  intro errors walk
  have none : {key | errors.has key} = ∅ := by
    ext key
    by_cases same : "qty" = key <;> simp [errors, ErrorMap.ofPairs, Entries.collect, Entries.put,
      ErrorMap.has, ErrorMap.get?, Entries.get?, same]
  exact ⟨.ofPairs trivial, rfl, by rw [none, Set.ncard_empty], rfl, rfl, rfl, rfl, rfl, rfl, rfl⟩

end Scrutiny
