import Scrutiny.Proofs.Record.Settling
import Scrutiny.Proofs.Record.Sparing

/-! # Fields that a layer bars

A layer bars a field of the root if it excludes its name, or if it lists names and this one is not
among them. What is nested in a barred field stays as it was, whatever layers are put around that
layer, since every layer asks the one inside it before it enters a field. A layer around it that
renames asks it as well; one that computes the field does not, so the computed value gets past it
(`Converter.override?`). Nothing else changes a barred field (`populate_barred`).
-/

namespace Scrutiny

namespace Converter

/-- Some layer leaves a field of the root out. -/
inductive Bars (field : String) : Converter → Prop
  | named {names : List String} {inner : Converter} :
      field ∈ names → Bars field (.excluding names inner)
  | unlisted {names : List String} {inner : Converter} :
      field ∉ names → Bars field (.including names inner)
  | excluding {names : List String} {inner : Converter} :
      Bars field inner → Bars field (.excluding names inner)
  | including {names : List String} {inner : Converter} :
      Bars field inner → Bars field (.including names inner)
  | sourcing {origins : Entries Origin} {inner : Converter} :
      Bars field inner → Bars field (.sourcing origins inner)

/-- What is computed for a field of the root by the outermost layer that either computes it or
leaves it out. -/
def override? (field : String) (source : Entries Value) : Converter → Option Value
  | plain => none
  | excluding names inner => if field ∈ names then none else inner.override? field source
  | including names inner => if field ∈ names then inner.override? field source else none
  | sourcing origins inner =>
    match origins.get? field with
    | some (.derived compute) => compute source
    | _ => inner.override? field source
  | answering _ inner => inner.override? field source
  | noting inner => inner.override? field source

namespace Bars

variable {field : String} {converter : Converter} (bars : converter.Bars field)

include bars

theorem enters : converter.enters "" field = false := by
  induction bars with
  | named excluded => exact enters_excluded _ _ excluded
  | unlisted absent => simp [Converter.enters, admits, absent]
  | excluding _ ih => rw [Converter.enters, ih, Bool.and_false]
  | including _ ih => rw [Converter.enters, ih, Bool.and_false]
  | sourcing _ ih => exact ih

/-- A barred field keeps its value if nothing is computed for it on the way to the layer that bars
it. -/
theorem convert (stock : converter.Stock) {binding : Binding} (named : binding.field = field)
    (root : binding.path = "") : converter.convert binding =
      (converter.override? field binding.source).getD binding.previous := by
  induction stock generalizing binding with
  | plain => cases bars
  | @excluding names inner _ ih =>
    by_cases excluded : field ∈ names
    · rw [override?, if_pos excluded, convert_excluded inner (named ▸ excluded), Option.getD_none]
    · cases bars with
      | named listed => exact absurd listed excluded
      | excluding inside =>
        have free : ¬ names.contains binding.field = true := by simpa [named] using excluded
        have asked : (Converter.excluding names inner).convert binding = inner.convert binding :=
          if_neg free
        rw [asked, ih inside named root, override?, if_neg excluded]
  | @including names inner _ ih =>
    by_cases listed : field ∈ names
    · cases bars with
      | unlisted absent => exact absurd listed absent
      | including inside =>
        have admitted : admits names binding.path binding.field := by simp [admits, named, listed]
        have asked : (Converter.including names inner).convert binding = inner.convert binding :=
          if_pos admitted
        rw [asked, ih inside named root, override?, if_pos listed]
    · have barred : ¬ admits names binding.path binding.field := by
        simp [admits, named, listed, root]
      have passed : (Converter.including names inner).convert binding = binding.previous :=
        if_neg barred
      rw [passed, override?, if_neg listed, Option.getD_none]
  | @sourcing origins inner _ ih =>
    cases bars with
    | sourcing inside =>
      cases found : origins.get? field with
      | none => simp only [Converter.convert, override?, named, found, ih inside named root]
      | some origin =>
        cases origin with
        | derived compute => simp only [Converter.convert, override?, named, found]
        | renamed key =>
          have asked := @ih inside (rename binding key) named root
          simp only [Converter.convert, override?, named, found]
          exact asked

end Bars

end Converter

/-- **Barred fields.** Let a copy into a record of a built shape, whatever changes have led to it,
go through, by a converter of any layers that leave fields out and layers that take values from
elsewhere. A field that one of the layers bars holds the entities that it held before. It has the
value that it had before as well, but where a layer around all those that bar it computes a value:
then a declared field has the computed one. -/
theorem populate_barred {shape : Shape} {record : Entity} (built : shape.Built)
    (reachable : Entity.Reachable shape record) {converter : Converter} (stock : converter.Stock)
    {source : Value} (done : (populate .record converter record source).failure = none)
    {field : String} (bars : converter.Bars field) :
    let after := (populate .record converter record source).result
    let before := Conduct.stored record.values field
    ∃ members, source = .object members ∧ after.slot? field = record.slot? field ∧
      (converter.override? field members = none → Conduct.stored after.values field = before) ∧
      ∀ value, converter.override? field members = some value →
        Conduct.stored after.values field =
          if field ∈ shape.fields then value.writtenOver before else before := by
  intro after before
  cases source with
  | object members =>
    have filled := populate_filled built reachable done
    have given (previous : Value) : converter.convert
        ((⟨members, "", none⟩ : Level).binding field previous) =
          (converter.override? field members).getD previous :=
      bars.convert stock rfl rfl
    refine ⟨members, rfl, filled.slot?_eq_of_passed bars.enters, fun nothing => ?_,
      fun value computed => ?_⟩
    · exact filled.takes.stored_eq fun previous => by rw [given, nothing, Option.getD_none]
    · obtain rfl := reachable.conforms.shape_eq
      split
      · next declared =>
        rw [filled.takes.field field declared, given, computed, Option.getD_some]
      · next absent => exact Conduct.stored_congr (filled.takes.other field absent)
  | _ => exact absurd done (by simp [populate])

/-- The number of the order is barred, and what is computed inside the layer that bars it is not
asked for; its lines are made anew. -/
theorem populate_barred_filledOrder :
    let converter : Converter := .sourcing [("id", .renamed "number")]
      (.excluding ["id"] (.sourcing [("id", .derived fun _ => some (.string "9"))] .plain))
    let members := [("number", Value.string "8"), ("lines", .list [])]
    let copied := populate .record converter Entity.filledOrder (.object members)
    Entity.orderShape.Built ∧ Entity.Reachable Entity.orderShape Entity.filledOrder ∧
      converter.Stock ∧ copied.failure = none ∧ converter.Bars "id" ∧
      converter.override? "id" members = none ∧
      Conduct.stored copied.result.values "id" = .string "7" ∧
      copied.result.slot? "lines" = some (.many []) := by
  intro converter members copied
  have built := Entity.orderShape_built
  have reachable := Entity.filledOrder_reachable
  have stock : converter.Stock := .sourcing (.excluding (.sourcing .plain))
  have done : copied.failure = none := rfl
  have bars : converter.Bars "id" := .sourcing (.named List.mem_cons_self)
  have nothing : converter.override? "id" members = none := rfl
  obtain ⟨_, same, _, kept, _⟩ := populate_barred built reachable stock done bars
  obtain rfl := Value.object.inj same
  exact ⟨built, reachable, stock, done, bars, nothing, kept nothing, rfl⟩

/-- A number is computed for the order by a layer around the one that excludes it. -/
theorem populate_changes_barred :
    let converter : Converter :=
      .sourcing [("id", .derived fun _ => some (.string "8"))] (.excluding ["id"] .plain)
    let copied := populate .record converter Entity.filledOrder (.object [])
    Entity.orderShape.Built ∧ Entity.Reachable Entity.orderShape Entity.filledOrder ∧
      converter.Stock ∧ copied.failure = none ∧ converter.Bars "id" ∧
      Conduct.stored Entity.filledOrder.values "id" = .string "7" ∧
      Conduct.stored copied.result.values "id" = .string "8" :=
  ⟨Entity.orderShape_built, Entity.filledOrder_reachable, .sourcing (.excluding .plain), rfl,
    .sourcing (.named List.mem_cons_self), rfl, rfl⟩

end Scrutiny
