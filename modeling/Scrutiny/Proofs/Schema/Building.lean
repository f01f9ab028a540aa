import Scrutiny.Proofs.Schema.Answering

/-! # Declarations that build

When the names of a declaration are all different and every rule of it can be resolved, its shape is
built (`ShapeDecl.build_eq_ok_of`). When the rules of a kind can be read and resolved one by one,
the declaration that is made of them all is of this sort
(`SchemaConfig.Resolution.addRules_eq_ok`).
-/

namespace Scrutiny

theorem mapM_eq_ok_of {ε α β : Type} {f : α → Except ε β} {items : List α}
    (each : ∀ item ∈ items, ∃ result, f item = .ok result) :
    ∃ results, items.mapM f = .ok results := by
  induction items with
  | nil => exact ⟨[], rfl⟩
  | cons item rest ih =>
    obtain ⟨result, made⟩ := each item List.mem_cons_self
    obtain ⟨results, others⟩ := ih fun later member => each later (List.mem_cons_of_mem _ member)
    exact ⟨result :: results, by rw [List.mapM_cons, made, others]; rfl⟩

namespace ShapeDecl

variable {registry : Registry}

/-- Every rule of a declaration can be resolved. -/
def Resolvable (registry : Registry) (decl : ShapeDecl) : Prop :=
  ∀ entry ∈ decl.rules, ∀ rule ∈ entry.2, ∃ resolved, registry.resolve entry.1 rule = .ok resolved

/-- Rules that can each be resolved are resolved together. -/
theorem resolveRules_eq_ok {rules : Entries (List RuleDecl)}
    (resolvable : ∀ entry ∈ rules, ∀ rule ∈ entry.2,
      ∃ resolved, registry.resolve entry.1 rule = .ok resolved) :
    ∃ resolved, resolveRules registry rules = .ok resolved := by
  induction rules with
  | nil => exact ⟨[], rfl⟩
  | cons entry rest ih =>
    obtain ⟨own, made⟩ := mapM_eq_ok_of (resolvable entry List.mem_cons_self)
    obtain ⟨others, more⟩ := ih fun later member => resolvable later (List.mem_cons_of_mem _ member)
    exact ⟨(entry.1, own) :: others, by rw [resolveRules, made, more]; rfl⟩

/-- Names that are different, and none of which has been seen, are not repeated. -/
theorem repeated?_eq_none {seen names : List String} (distinct : names.Nodup)
    (apart : ∀ name ∈ names, name ∉ seen) : repeated? seen names = none := by
  induction names generalizing seen with
  | nil => rfl
  | cons name rest ih =>
    obtain ⟨fresh, distinct⟩ := List.nodup_cons.mp distinct
    have unseen : ¬seen.contains name := by
      intro found
      exact apart name List.mem_cons_self (List.contains_iff_mem.mp found)
    rw [repeated?, if_neg unseen]
    apply ih distinct
    intro other member again
    rcases List.mem_cons.mp again with rfl | old
    · exact fresh member
    · exact apart other (List.mem_cons_of_mem _ member) old

/-- A declaration without repetitions whose rules can be resolved is built. -/
theorem build_eq_ok_of (decl : ShapeDecl)
    (distinct : (decl.fields ++ decl.nested.map Nested.field).Nodup)
    (resolvable : decl.Resolvable registry) :
    ∃ rules, decl.build registry =
      .ok ⟨decl.name, decl.fields, decl.labels, rules, decl.nested⟩ := by
  obtain ⟨rules, resolved⟩ := resolveRules_eq_ok resolvable
  have single := repeated?_eq_none distinct fun _ _ => List.not_mem_nil
  exact ⟨rules, by simp only [build, single, resolved]⟩

end ShapeDecl

/-- The position of a rule occurs only in messages. -/
theorem RuleDecl.ofValues_index {field : String} {index : Nat} {names : ScopeNames}
    {parts : List Value} {decl : RuleDecl} (read : ofValues field index names parts = .ok decl)
    (other : Nat) : ofValues field other names parts = .ok decl := by
  unfold ofValues at read ⊢
  split at read
  · split at read
    · exact read
    · exact absurd read (by simp)
    · exact absurd read (by simp)
  · exact absurd read (by simp)

namespace SchemaConfig.Resolution

/-- A rule of a field can be read and resolved. -/
def RuleFits (registry : Registry) (names : ScopeNames) (field : String) (parts : List Value) :
    Prop :=
  ∃ index decl rule, RuleDecl.ofValues field index names parts = .ok decl ∧
    registry.resolve field decl = .ok rule

variable {registry : Registry} {names : ScopeNames}

/-- The rules of a field that fit are read, and each of them can be resolved. -/
theorem rulesOf_eq_ok {field : String} (index : Nat) {lists : List (List Value)}
    (fit : ∀ parts ∈ lists, ∃ index decl rule,
      RuleDecl.ofValues field index names parts = .ok decl ∧
        registry.resolve field decl = .ok rule) :
    ∃ rules, rulesOf names field index lists = .ok rules ∧
      ∀ rule ∈ rules, ∃ resolved, registry.resolve field rule = .ok resolved := by
  induction lists generalizing index with
  | nil => exact ⟨[], rfl, fun _ member => absurd member List.not_mem_nil⟩
  | cons parts rest ih =>
    obtain ⟨_, decl, rule, read, resolved⟩ := fit parts List.mem_cons_self
    obtain ⟨others, more, resolvable⟩ :=
      ih (index + 1) fun later member => fit later (List.mem_cons_of_mem _ member)
    refine ⟨decl :: others, ?_, List.forall_mem_cons.mpr ⟨⟨rule, resolved⟩, resolvable⟩⟩
    rw [rulesOf, RuleDecl.ofValues_index read index, more]
    rfl

/-- Rules that can be resolved still can after others have joined them. -/
theorem resolvable_addRules {decl : ShapeDecl} {field : String} {rules : List RuleDecl}
    (old : decl.Resolvable registry)
    (new : ∀ rule ∈ rules, ∃ resolved, registry.resolve field rule = .ok resolved) :
    (decl.addRules field rules).Resolvable registry := by
  intro entry member rule listed
  rcases Entries.mem_put member with before | rfl
  · exact old entry before rule listed
  rcases List.mem_append.mp listed with before | added
  · cases found : decl.rules.get? field with
    | none => simp [found] at before
    | some own =>
      rw [found] at before
      exact old (field, own) (Entries.mem_of_get? found) rule before
  · exact new rule added

/-- The rules of all fields that fit are added, and each of them can be resolved. -/
theorem addRules_eq_ok (decl : ShapeDecl) {rules : Entries (List (List Value))}
    (fit : ∀ entry ∈ rules, ∀ parts ∈ entry.2, RuleFits registry names entry.1 parts)
    (resolvable : decl.Resolvable registry) :
    ∃ own, addRules names decl rules = .ok { decl with rules := own } ∧
      ({ decl with rules := own } : ShapeDecl).Resolvable registry := by
  induction rules generalizing decl with
  | nil => exact ⟨decl.rules, rfl, resolvable⟩
  | cons entry rest ih =>
    obtain ⟨own, read, new⟩ := rulesOf_eq_ok 0 (fit entry List.mem_cons_self)
    have fit := fun later member => fit later (List.mem_cons_of_mem _ member)
    by_cases empty : own.isEmpty
    · obtain ⟨all, more, resolvable⟩ := ih decl fit resolvable
      refine ⟨all, ?_, resolvable⟩
      rw [addRules, read]
      simp only [bind, Except.bind, empty, ↓reduceIte, more]
    · obtain ⟨all, more, resolvable⟩ := ih _ fit (resolvable_addRules resolvable new)
      refine ⟨all, ?_, resolvable⟩
      rw [addRules, read]
      simp only [bind, Except.bind, empty, Bool.false_eq_true, ↓reduceIte, more]
      rfl

end SchemaConfig.Resolution

end Scrutiny
