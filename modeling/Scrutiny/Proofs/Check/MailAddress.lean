import Mathlib.Data.List.Basic
import Scrutiny.Check.Form
import Scrutiny.Proofs.Pattern.Languages

/-! # The pattern of mail addresses

A mail address is told by cutting a text at its at sign and at its points. The pattern for mail
addresses says the same: its language is made of the same parts, and it is found in exactly the
texts that are mail addresses (`Check.isMailAddress_eq_matchesText`).
-/

namespace Scrutiny.Check

open Pattern

section Cutting

variable {c : Char} {text : List Char}

/-- No part of a text that is cut at a character has the character in it. -/
theorem notMem_of_mem_splitOn {part : List Char} (member : part ∈ text.splitOn c) : c ∉ part := by
  rw [List.splitOn_eq_splitOnP] at member
  induction text generalizing part with
  | nil =>
    obtain rfl : part = [] := List.mem_singleton.mp member
    exact List.not_mem_nil
  | cons d text ih =>
    rw [List.splitOnP_cons_eq_if_modifyHead] at member
    split at member
    · rcases List.mem_cons.mp member with rfl | later
      · exact List.not_mem_nil
      · exact ih later
    · next other =>
      obtain ⟨head, tail, whole⟩ := List.exists_cons_of_ne_nil (List.splitOnP_ne_nil (· == c) text)
      rw [whole, List.modifyHead_cons] at member
      rw [whole] at ih
      rcases List.mem_cons.mp member with rfl | later
      · have away : c ≠ d := fun same => other (beq_iff_eq.mpr same.symm)
        exact List.not_mem_cons_of_ne_of_not_mem away (ih List.mem_cons_self)
      · exact ih (List.mem_cons_of_mem _ later)

/-- A text is cut into given parts exactly if it is these parts with the character between them,
which is in none of them. -/
theorem splitOn_eq_iff {parts : List (List Char)} (some : parts ≠ []) :
    text.splitOn c = parts ↔ text = [c].intercalate parts ∧ ∀ part ∈ parts, c ∉ part := by
  constructor
  · rintro rfl
    exact ⟨(List.intercalate_splitOn c).symm, fun part => notMem_of_mem_splitOn⟩
  · rintro ⟨rfl, apart⟩
    exact List.splitOn_intercalate c apart some

/-- What joins the parts of a text aside, its characters are those of the parts. -/
theorem mem_intercalate {d : Char} {parts : List (List Char)} (away : d ≠ c) :
    d ∈ [c].intercalate parts ↔ ∃ part ∈ parts, d ∈ part := by
  induction parts with
  | nil => simp
  | cons part parts ih =>
    rcases parts.eq_nil_or_concat with rfl | ⟨_, _, more⟩
    · simp
    · have others : parts ≠ [] := by simp [more]
      rw [List.intercalate_cons_of_ne_nil others, List.mem_append, List.mem_append,
        List.mem_singleton, ih]
      simp only [away, or_false, List.mem_cons, exists_eq_or_imp]

end Cutting

/-- The characters of the name of a mailbox. -/
def mailboxSet : CharSet :=
  .complement (.union (.named Text.isWhiteSpace) (.single '@'))

/-- The characters of the names of a host. -/
def hostSet : CharSet :=
  .complement (.union (.union (.named Text.isWhiteSpace) (.single '@')) (.single '.'))

/-- A mailbox may have anything but white space and an at sign. -/
theorem has_mailboxSet {c : Char} :
    mailboxSet.has c = true ↔ Text.isWhiteSpace c = false ∧ c ≠ '@' := by
  simp [mailboxSet, CharSet.has]

/-- A name in a host may not have a point either. -/
theorem has_hostSet {c : Char} :
    hostSet.has c = true ↔ Text.isWhiteSpace c = false ∧ c ≠ '@' ∧ c ≠ '.' := by
  simp [hostSet, CharSet.has, and_assoc]

/-- The parts of a mail address: the name of the mailbox and the names of the host. -/
structure MailParts (text : List Char) (mailbox : List Char) (names : List (List Char)) : Prop where
  whole : text = mailbox ++ '@' :: ['.'].intercalate names
  mailbox : 1 ≤ mailbox.length ∧ ∀ c ∈ mailbox, mailboxSet.has c = true
  several : 2 ≤ names.length
  names : ∀ name ∈ names, 1 ≤ name.length ∧ ∀ c ∈ name, hostSet.has c = true

/-- The characters of the names of a host and the points between them. -/
theorem MailParts.host_dark {text mailbox : List Char} {names : List (List Char)}
    (parts : MailParts text mailbox names) {c : Char} (member : c ∈ ['.'].intercalate names) :
    Text.isWhiteSpace c = false ∧ c ≠ '@' := by
  by_cases point : c = '.'
  · subst point
    exact ⟨by decide +kernel, by decide⟩
  · obtain ⟨name, among, inside⟩ := (mem_intercalate point).mp member
    obtain ⟨dark, other, -⟩ := has_hostSet.mp ((parts.names name among).2 c inside)
    exact ⟨dark, other⟩

/-- What a mail address is cut into are its parts. -/
theorem exists_mailParts {text : String} (address : isMailAddress text = true) :
    ∃ mailbox names, MailParts text.toList mailbox names := by
  unfold isMailAddress at address
  split at address
  · next mailbox host cut =>
    -- The parts of a cut are free of the character that it is made at, which the sets ask for.
    obtain ⟨whole, apart⟩ := (splitOn_eq_iff (by simp)).mp cut
    obtain ⟨joined, pointless⟩ := (splitOn_eq_iff (List.splitOn_ne_nil '.' host)).mp rfl
    simp only [Bool.and_eq_true, Bool.not_eq_true', List.isEmpty_eq_false_iff, List.any_eq_false,
      List.all_eq_true, decide_eq_true_eq, Bool.not_eq_true] at address
    obtain ⟨⟨⟨dark, some⟩, several⟩, named⟩ := address
    have split : text.toList = mailbox ++ '@' :: host := by simpa using whole
    rw [split] at dark
    refine ⟨mailbox, host.splitOn '.', joined ▸ split, ⟨?_, fun c inside => ?_⟩, several,
      fun name among => ⟨?_, fun c inside => ?_⟩⟩
    · exact List.length_pos_iff.mpr some
    · have other : c ≠ '@' := fun same => apart mailbox (by simp) (same ▸ inside)
      exact has_mailboxSet.mpr ⟨dark c (List.mem_append_left _ inside), other⟩
    · exact List.length_pos_iff.mpr (named name among)
    · have point : c ≠ '.' := fun same => pointless name among (same ▸ inside)
      have hosted : c ∈ host := joined ▸ (mem_intercalate point).mpr ⟨name, among, inside⟩
      have other : c ≠ '@' := fun same => apart host (by simp) (same ▸ hosted)
      refine has_hostSet.mpr ⟨dark c (List.mem_append_right _ ?_), other, point⟩
      exact List.mem_cons_of_mem _ hosted
  · exact absurd address Bool.false_ne_true

/-- What is made of the parts of a mail address is cut into them again. -/
theorem MailParts.accepted {text : String} {mailbox : List Char} {names : List (List Char)}
    (parts : MailParts text.toList mailbox names) : isMailAddress text = true := by
  have some : names ≠ [] := List.ne_nil_of_length_pos (Nat.zero_lt_of_lt parts.several)
  have cut : text.toList.splitOn '@' = [mailbox, ['.'].intercalate names] := by
    refine (splitOn_eq_iff (by simp)).mpr ⟨by simpa using parts.whole, ?_⟩
    intro part among
    rcases List.mem_pair.mp among with rfl | rfl
    · exact fun inside => (has_mailboxSet.mp (parts.mailbox.2 _ inside)).2 rfl
    · exact fun inside => (parts.host_dark inside).2 rfl
  have named : (['.'].intercalate names).splitOn '.' = names :=
    (splitOn_eq_iff some).mpr ⟨rfl, fun name among inside =>
      (has_hostSet.mp ((parts.names name among).2 _ inside)).2.2 rfl⟩
  unfold isMailAddress
  simp only [cut, named, Bool.and_eq_true, Bool.not_eq_true', List.isEmpty_eq_false_iff,
    List.any_eq_false, List.all_eq_true, decide_eq_true_eq, Bool.not_eq_true]
  refine ⟨⟨⟨fun c inside => ?_, ?_⟩, parts.several⟩, fun name among => ?_⟩
  · rw [parts.whole, List.mem_append, List.mem_cons] at inside
    rcases inside with here | rfl | later
    · exact (has_mailboxSet.mp (parts.mailbox.2 c here)).1
    · decide +kernel
    · exact (parts.host_dark later).1
  · exact List.ne_nil_of_length_pos parts.mailbox.1
  · exact List.ne_nil_of_length_pos (parts.names name among).1

/-- Cutting a text finds the parts of a mail address exactly if it is made of them. -/
theorem isMailAddress_iff (text : String) :
    isMailAddress text = true ↔ ∃ mailbox names, MailParts text.toList mailbox names :=
  ⟨exists_mailParts, fun ⟨_, _, parts⟩ => parts.accepted⟩

/-- The languages of the parts of the pattern of mail addresses. -/
def mailLanguages : List (Language Char) :=
  [repeated 1 none mailboxSet.language, (CharSet.single '@').language,
    repeated 1 none hostSet.language,
    repeated 1 none ((CharSet.single '.').language * repeated 1 none hostSet.language)]

/-- The patterns between the start and the end of a mail address. -/
def mailPatterns : List Pattern :=
  [.rep 1 none true (.one mailboxSet), .one (.single '@'), .rep 1 none true (.one hostSet),
    .rep 1 none true (.seq (.one (.single '.')) (.rep 1 none true (.one hostSet)))]

/-- The patterns of a mail address spell its parts in a row. -/
theorem spells_mailPatterns : (seqAll mailPatterns).Spells mailLanguages.prod :=
  let host := (Spells.one hostSet).rep 1 none true
  .seqAll (.cons ((Spells.one mailboxSet).rep 1 none true) (.cons (.one _)
    (.cons host (.cons (((Spells.one _).seq host).rep 1 none true) .nil))))

theorem mem_language_single {c : Char} {cs : List Char} :
    cs ∈ (CharSet.single c).language ↔ cs = [c] := by
  constructor
  · rintro ⟨d, member, rfl⟩
    rw [CharSet.has_single, beq_iff_eq] at member
    rw [member]
  · rintro rfl
    exact ⟨c, by rw [CharSet.has_single, beq_self_eq_true], rfl⟩

/-- A name is read behind a point. -/
theorem mem_language_name {cs : List Char} :
    cs ∈ (CharSet.single '.').language * repeated 1 none hostSet.language ↔
      ∃ name : List Char, (1 ≤ name.length ∧ ∀ c ∈ name, hostSet.has c = true) ∧
        cs = '.' :: name := by
  simp only [Language.mem_mul, mem_language_single, mem_repeated_language, exists_eq_left,
    List.singleton_append, eq_comm]

/-- Names with points between them are the first, and each other with a point before it. -/
theorem intercalate_cons (first : List Char) (names : List (List Char)) :
    ['.'].intercalate (first :: names) = first ++ names.flatMap ('.' :: ·) := by
  induction names generalizing first with
  | nil => simp
  | cons name names ih =>
    rw [List.intercalate_cons_cons, ih, List.flatMap_cons, List.append_assoc]
    rfl

/-- The language of the pattern are the texts that are made of the parts of a mail address. -/
theorem mem_mailLanguages {cs : List Char} :
    cs ∈ mailLanguages.prod ↔ ∃ mailbox names, MailParts cs mailbox names := by
  simp only [mailLanguages, List.prod_cons, List.prod_nil, mul_one, Language.mem_mul,
    mem_repeated_language, mem_language_single, mem_repeated_image fun _ => mem_language_name,
    exists_eq_left]
  constructor
  · rintro ⟨mailbox, named, _, ⟨_, ⟨first, hosted, _, ⟨names, many, all, rfl⟩, rfl⟩, rfl⟩, rfl⟩
    refine ⟨mailbox, first :: names, ?_, named, ?_, List.forall_mem_cons.mpr ⟨hosted, all⟩⟩
    · rw [intercalate_cons]
      rfl
    · rw [List.length_cons]
      omega
  · rintro ⟨mailbox, names, whole, named, several, all⟩
    obtain ⟨first, names, rfl⟩ := List.exists_cons_of_length_pos (Nat.zero_lt_of_lt several)
    obtain ⟨hosted, others⟩ := List.forall_mem_cons.mp all
    have more : 1 ≤ names.length := Nat.le_of_succ_le_succ several
    rw [whole, intercalate_cons]
    exact ⟨mailbox, named, _, ⟨_, ⟨first, hosted, _, ⟨names, more, others, rfl⟩, rfl⟩, rfl⟩, rfl⟩

/-- **Mail addresses are what the pattern of mail addresses is found in.** -/
theorem isMailAddress_eq_matchesText : ∃ pattern,
    Pattern.read? false "^[^\\s@]+@[^\\s@.]+(?:\\.[^\\s@.]+)+$" = some pattern ∧
      ∀ text, isMailAddress text = pattern.matchesText text := by
  refine ⟨seqAll (.assertion .textStart :: mailPatterns ++ [.assertion .textEnd]), rfl,
    fun text => ?_⟩
  rw [Bool.eq_iff_iff, isMailAddress_iff, ← mem_mailLanguages]
  exact (spells_mailPatterns.matchesText_iff text).symm

end Scrutiny.Check
