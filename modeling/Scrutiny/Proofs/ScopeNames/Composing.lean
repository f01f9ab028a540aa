import Scrutiny.Proofs.ScopeNames.Distinct

/-! # Flag expressions compose

What an expression is read as depends on the names that it lists, and on nothing else: an expression
of two parts is read as both parts together, and two expressions that list the same names, in
whatever order, however often and in whatever spelling, are read alike
(`ScopeNames.parseFlags_composes`).
-/

namespace Scrutiny

theorem Scope.union_none (scope : Scope) : scope.union .none = scope := by
  simp [union, none]

namespace Control

/-- No control flag adds to nothing what there is. -/
theorem none_union (control : Control) : none.union control = control := by
  simp [union, none]

theorem union_none (control : Control) : control.union none = control := by
  simp [union, none]

/-- There are no control flags if this is the word without any. -/
theorem isEmpty_iff {control : Control} : control.isEmpty ↔ control = none := by
  obtain ⟨failure, success, errored⟩ := control
  simp [isEmpty, none, and_assoc]

end Control

namespace ScopeNames

/-- The operations and control flags of either side. -/
def both (first second : Scope × Control) : Scope × Control :=
  (first.1.union second.1, first.2.union second.2)

/-- What a name in an expression stands for: operations, or a control flag. -/
def flags? (table : ScopeNames) (name : String) : Option (Scope × Control) :=
  match table.names.get? name with
  | some named => some (named, .none)
  | none => (Control.named? name).map fun flag => (.none, flag)

/-- An expression lists a name: the name is not blank and is spelled in the expression between
separators. -/
inductive Lists : String → String → Prop
  | spelled {part : String} : (∀ c ∈ part.toList, isSeparator c = false) → plain part ≠ "" →
      Lists part (plain part)
  | before {first second name : String} {separator : Char} : isSeparator separator →
      Lists first name → Lists (first ++ String.singleton separator ++ second) name
  | after {first second name : String} {separator : Char} : isSeparator separator →
      Lists second name → Lists (first ++ String.singleton separator ++ second) name

section Both

variable (first second third : Scope × Control)

theorem both_comm : both first second = both second first := by
  simp only [both, Scope.union, Control.union, UInt32.or_comm, Bool.or_comm]

theorem both_assoc : both (both first second) third = both first (both second third) := by
  simp only [both, Scope.union, Control.union, UInt32.or_assoc, Bool.or_assoc]

theorem both_self : both first first = first := by
  simp only [both, Scope.union, Control.union, UInt32.or_self, Bool.or_self]

theorem nothing_both : both (.none, .none) first = first :=
  Prod.ext (Scope.none_union _) (Control.none_union _)

theorem both_nothing : both first (.none, .none) = first :=
  (both_comm _ _).trans (nothing_both first)

end Both

section Tokens

variable {table : ScopeNames} {scope : Scope} {control : Control}

/-- A name has no flags if it is neither defined nor that of a control flag. -/
theorem flags?_eq_none {name : String} :
    table.flags? name = none ↔ table.names.get? name = none ∧ Control.named? name = none := by
  unfold flags?
  cases table.names.get? name with
  | some named => simp
  | none => simp

/-- Tokens are added one by one, up to the first that has no flags. -/
theorem addTokens_cons (table : ScopeNames) (scope : Scope) (control : Control) (token : String)
    (rest : List String) : table.addTokens scope control (token :: rest) =
      match table.flags? token with
      | some flags => table.addTokens (scope.union flags.1) (control.union flags.2) rest
      | none => .error (.unknownFlag token) := by
  rw [addTokens, flags?]
  cases table.names.get? token with
  | some named => simp only [Control.union_none]
  | none =>
    cases Control.named? token with
    | some flag => simp only [Option.map_some, Scope.union_none]
    | none => rfl

/-- Names are added to what is there. -/
theorem addTokens_eq (table : ScopeNames) (scope : Scope) (control : Control)
    (tokens : List String) : table.addTokens scope control tokens =
      (table.addTokens .none .none tokens).map (both (scope, control)) := by
  induction tokens generalizing scope control with
  | nil => exact congrArg Except.ok (both_nothing (scope, control)).symm
  | cons token rest ih =>
    rw [addTokens_cons, addTokens_cons]
    cases table.flags? token with
    | none => rfl
    | some flags =>
      simp only [Scope.none_union, Control.none_union]
      rw [ih, ih flags.1]
      cases table.addTokens .none .none rest with
      | error => rfl
      | ok further => exact congrArg Except.ok (both_assoc (scope, control) flags further)

/-- The first of several names is read and then the others, or it is refused if it stands for
nothing. -/
theorem readTokens_cons (table : ScopeNames) (token : String) (rest : List String) :
    table.addTokens .none .none (token :: rest) =
      match table.flags? token with
      | some flags => (table.addTokens .none .none rest).map (both flags)
      | none => .error (.unknownFlag token) := by
  rw [addTokens_cons]
  cases table.flags? token with
  | none => rfl
  | some flags =>
    simp only [Scope.none_union, Control.none_union]
    exact addTokens_eq table flags.1 flags.2 rest

/-- Tokens in a row are read as both parts together. -/
theorem readTokens_append (table : ScopeNames) (first second : List String) :
    table.addTokens .none .none (first ++ second) = do
      let flags ← table.addTokens .none .none first
      let further ← table.addTokens .none .none second
      return both flags further := by
  induction first with
  | nil =>
    rw [List.nil_append, addTokens]
    cases table.addTokens .none .none second with
    | error => rfl
    | ok further => exact congrArg Except.ok (nothing_both further).symm
  | cons token rest ih =>
    rw [List.cons_append, readTokens_cons, readTokens_cons, ih]
    cases table.flags? token with
    | none => rfl
    | some flags =>
      cases table.addTokens .none .none rest with
      | error => rfl
      | ok own =>
        cases table.addTokens .none .none second with
        | error => rfl
        | ok further => exact congrArg Except.ok (both_assoc flags own further).symm

/-- Names are refused for one of them that stands for nothing. -/
theorem readTokens_eq_error {tokens : List String} {error : DeclarationError}
    (refused : table.addTokens .none .none tokens = .error error) :
    ∃ token ∈ tokens, table.flags? token = none ∧ error = .unknownFlag token := by
  induction tokens with
  | nil => exact nomatch refused
  | cons token rest ih =>
    rw [readTokens_cons] at refused
    cases known : table.flags? token with
    | none =>
      rw [known] at refused
      exact ⟨token, List.mem_cons_self, known, (Except.error.inj refused).symm⟩
    | some flags =>
      rw [known] at refused
      cases later : table.addTokens .none .none rest with
      | error other =>
        rw [later] at refused
        obtain rfl := Except.error.inj refused
        obtain ⟨other, member, unknown⟩ := ih later
        exact ⟨other, List.mem_cons_of_mem _ member, unknown⟩
      | ok further =>
        rw [later] at refused
        exact nomatch refused

/-- What several names are read as has the flags of each of them. -/
theorem both_of_mem_tokens {tokens : List String} {flags : Scope × Control}
    (read : table.addTokens .none .none tokens = .ok flags) {token : String}
    (member : token ∈ tokens) : ∃ own, table.flags? token = some own ∧ both own flags = flags := by
  induction tokens generalizing flags with
  | nil => exact absurd member List.not_mem_nil
  | cons first rest ih =>
    rw [readTokens_cons] at read
    cases known : table.flags? first with
    | none =>
      rw [known] at read
      exact nomatch read
    | some own =>
      rw [known] at read
      cases later : table.addTokens .none .none rest with
      | error =>
        rw [later] at read
        exact nomatch read
      | ok further =>
        rw [later] at read
        obtain rfl := Except.ok.inj read
        rcases List.mem_cons.mp member with rfl | member
        · exact ⟨own, known, by rw [← both_assoc, both_self]⟩
        · obtain ⟨other, found, within⟩ := ih later member
          exact ⟨other, found, by rw [← both_assoc, both_comm other, both_assoc, within]⟩

/-- Names whose flags are among given ones are read, and only as flags among these. -/
theorem readTokens_within {tokens : List String} {flags : Scope × Control}
    (within : ∀ token ∈ tokens, ∃ own, table.flags? token = some own ∧ both own flags = flags) :
    ∃ read, table.addTokens .none .none tokens = .ok read ∧ both read flags = flags := by
  induction tokens with
  | nil => exact ⟨_, rfl, nothing_both flags⟩
  | cons first rest ih =>
    obtain ⟨own, known, inside⟩ := within first List.mem_cons_self
    obtain ⟨further, later, among⟩ :=
      ih fun token member => within token (List.mem_cons_of_mem _ member)
    refine ⟨both own further, ?_, by rw [both_assoc, among, inside]⟩
    rw [readTokens_cons, known, later]
    rfl

/-- Names that are listed in another order or another number of times are read alike. -/
theorem readTokens_congr {first second : List String}
    (same : ∀ token, token ∈ first ↔ token ∈ second) {flags : Scope × Control}
    (read : table.addTokens .none .none first = .ok flags) :
    table.addTokens .none .none second = .ok flags := by
  obtain ⟨other, also, less⟩ := readTokens_within fun token (member : token ∈ second) =>
    both_of_mem_tokens read ((same token).mpr member)
  obtain ⟨_, again, more⟩ := readTokens_within fun token (member : token ∈ first) =>
    both_of_mem_tokens also ((same token).mp member)
  obtain rfl := Except.ok.inj (read.symm.trans again)
  rw [also, ← less, both_comm, more]

end Tokens

section Listing

/-- A separator cuts a text wherever it stands. -/
theorem splitParts_append {separator : Char} (separates : isSeparator separator)
    (current first second : List Char) : splitParts current (first ++ separator :: second) =
      splitParts current first ++ splitParts [] second := by
  induction first generalizing current with
  | nil => simp only [List.nil_append, splitParts, separates, ↓reduceIte, List.singleton_append]
  | cons c rest ih =>
    simp only [List.cons_append, splitParts]
    split
    · rw [ih, List.cons_append]
    · exact ih _

/-- The tokens of two expressions with a separator between them are those of both. -/
theorem tokens_append {separator : Char} (separates : isSeparator separator)
    (first second : String) : tokens (first ++ String.singleton separator ++ second) =
      tokens first ++ tokens second := by
  have text : (first ++ String.singleton separator ++ second).toList =
      first.toList ++ separator :: second.toList := by simp
  rw [tokens, text, splitParts_append separates, List.filterMap_append]
  rfl

/-- What is between separators lists at most its own name. -/
theorem tokens_of_free {part : String} (free : ∀ c ∈ part.toList, isSeparator c = false) :
    tokens part = if plain part = "" then [] else [plain part] := by
  rw [tokens, splitParts_of_free free, List.nil_append, List.filterMap_cons, List.filterMap_nil]
  cases kept : Text.trimChars part.toList with
  | nil => simp [plain, Text.trim, Text.lowerBasic, kept]
  | cons c rest => simp [plain, Text.trim, Text.lowerBasic, kept]

/-- The names that are read are those that are listed. -/
theorem mem_tokens_iff {expression name : String} :
    name ∈ tokens expression ↔ Lists expression name := by
  constructor
  · intro member
    generalize length : expression.length = count
    induction count using Nat.strong_induction_on generalizing expression with
    | _ count ih =>
    by_cases free : ∀ c ∈ expression.toList, isSeparator c = false
    · rw [tokens_of_free free] at member
      split at member
      · exact absurd member List.not_mem_nil
      · next dark =>
        rw [List.mem_singleton.mp member]
        exact .spelled free dark
    · simp only [not_forall, Bool.not_eq_false] at free
      obtain ⟨separator, inside, separates⟩ := free
      obtain ⟨first, second, split⟩ := List.append_of_mem inside
      obtain rfl : expression =
          String.ofList first ++ String.singleton separator ++ String.ofList second := by
        rw [← String.toList_inj, split]
        simp
      rw [String.length_append, String.length_append, String.length_singleton] at length
      rw [tokens_append separates] at member
      rcases List.mem_append.mp member with member | member
      · exact .before separates (ih _ (by omega) member rfl)
      · exact .after separates (ih _ (by omega) member rfl)
  · intro lists
    induction lists with
    | spelled free dark =>
      rw [tokens_of_free free, if_neg dark]
      exact List.mem_singleton_self _
    | before separates _ ih =>
      rw [tokens_append separates]
      exact List.mem_append_left _ ih
    | after separates _ ih =>
      rw [tokens_append separates]
      exact List.mem_append_right _ ih

end Listing

/-- A scope is read from an expression that has flags without controls. -/
theorem parseScope_eq_ok_iff {table : ScopeNames} {expression : String} {scope : Scope} :
    table.parseScope expression = .ok scope ↔
      table.parseFlags expression = .ok (scope, .none) := by
  rw [parseScope_eq_ok]
  constructor
  · rintro ⟨control, read, plain⟩
    rwa [Control.isEmpty_iff.mp plain] at read
  · exact fun read => ⟨.none, read, rfl⟩

/-- **Flag expressions compose.** An expression of two parts with a separator between them is read
as both parts together, or refused as the first part that is; and it is refused for a name that it
lists and that stands for nothing. An expression that is read is read alike in every other form that
lists the same names: in another order, with a name repeated or with blank parts, with white space
around a name or in other letters. It is an expression of scope names alone if and only if what it
is read as has no control flag. -/
theorem parseFlags_composes (table : ScopeNames) :
    (∀ first second separator, isSeparator separator →
      table.parseFlags (first ++ String.singleton separator ++ second) = do
        let (scope, control) ← table.parseFlags first
        let (further, flags) ← table.parseFlags second
        return (scope.union further, control.union flags)) ∧
      (∀ expression error, table.parseFlags expression = .error error →
        ∃ name, Lists expression name ∧ table.names.get? name = none ∧
          Control.named? name = none ∧ error = .unknownFlag name) ∧
      (∀ expression other, (∀ name, Lists expression name ↔ Lists other name) → ∀ flags,
        table.parseFlags expression = .ok flags ↔ table.parseFlags other = .ok flags) ∧
      ∀ expression scope, table.parseScope expression = .ok scope ↔
        table.parseFlags expression = .ok (scope, .none) := by
  refine ⟨?_, ?_, ?_, fun _ _ => parseScope_eq_ok_iff⟩
  · intro first second separator separates
    rw [parseFlags, tokens_append separates, readTokens_append]
    rfl
  · intro expression error refused
    obtain ⟨name, member, unknown, same⟩ := readTokens_eq_error refused
    obtain ⟨foreign, uncontrolled⟩ := flags?_eq_none.mp unknown
    exact ⟨name, mem_tokens_iff.mp member, foreign, uncontrolled, same⟩
  · intro expression other same flags
    have alike (token : String) : token ∈ tokens expression ↔ token ∈ tokens other := by
      rw [mem_tokens_iff, mem_tokens_iff, same]
    exact ⟨readTokens_congr alike, readTokens_congr fun token => (alike token).symm⟩

/-- Publishing with a control flag, in two forms, and with a name that stands for nothing. -/
theorem parseFlags_composes_publish :
    let table := standard.after [("publish", 16)]
    let expression := "publish" ++ String.singleton '|' ++ "EXIT_ON_FAILURE"
    let other := " exit_on_failure,,Publish | publish"
    isSeparator '|' ∧ (∀ name, Lists expression name ↔ Lists other name) ∧
      table.parseFlags "publish" = .ok (⟨16⟩, .none) ∧
      table.parseFlags other = .ok (⟨16⟩, { exitOnFailure := true }) ∧
      table.parseScope " Publish " = .ok ⟨16⟩ ∧
      table.parseFlags "publish,often" = .error (.unknownFlag "often") ∧
      Lists "publish,often" "often" := by
  intro table expression other
  obtain ⟨splits, refuses, respells, scopes⟩ := parseFlags_composes table
  have separates : isSeparator '|' := rfl
  have first : tokens expression = ["publish", "exit_on_failure"] := by decide
  have second : tokens other = ["exit_on_failure", "publish", "publish"] := by decide
  have same (name : String) : Lists expression name ↔ Lists other name := by
    rw [← mem_tokens_iff, ← mem_tokens_iff, first, second]
    simp [or_comm]
  have publish : table.parseFlags "publish" = .ok (⟨16⟩, .none) := by rfl
  have control : table.parseFlags "EXIT_ON_FAILURE" = .ok (.none, { exitOnFailure := true }) := by
    rfl
  have read : table.parseFlags expression = .ok (⟨16⟩, { exitOnFailure := true }) := by
    rw [splits "publish" "EXIT_ON_FAILURE" '|' separates, publish, control]
    rfl
  have refused : table.parseFlags "publish,often" = .error (.unknownFlag "often") := by rfl
  obtain ⟨name, listed, _, _, named⟩ := refuses _ _ refused
  obtain rfl := DeclarationError.unknownFlag.inj named
  exact ⟨separates, same, publish, (respells _ _ same _).mp read, (scopes _ _).mpr (by rfl),
    refused, listed⟩

end ScopeNames

end Scrutiny
