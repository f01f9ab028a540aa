import Scrutiny.Proofs.Pattern.SplicedBracket

/-! # What the items of a pattern text do

Reading an item has two parts: the text says what to do (`decode`), and the state of the reader
changes accordingly (`ReaderState.apply`). The first part looks at the options only, the second not
at the text.
-/

namespace Scrutiny.Pattern

/-- What an item of a pattern text asks for. -/
inductive Action where
  /-- Open a group, under the given options; a group with a name is numbered too. -/
  | enter (name : Option (List Char)) (numbered : Bool) (flags : Flags)
  /-- Go on under other options. -/
  | switch (flags : Flags)
  /-- Close the innermost group. -/
  | leave
  /-- Begin the next alternative. -/
  | alternative
  /-- Add a single item. -/
  | item (pattern : Pattern) (depth : Nat)
  /-- Repeat the last item. -/
  | repetition (least : Nat) (most : Option Nat) (lazy : Bool)

/-- What a name after an opening angle bracket asks for. -/
def decodeName (flags : Flags) (cs : List Char) : Option (Action × List Char) :=
  (groupName cs).map fun found => (.enter (some found.1) true flags, found.2)

/-- What options after a question mark ask for. -/
def decodeFlags (flags : Flags) (cs : List Char) : Option (Action × List Char) :=
  (readFlags flags [] false false cs).bind fun found =>
    if found.2.2.1 = ':' then some (.enter none false found.1, found.2.2.2)
    else if found.2.1.isEmpty then none
    else some (.switch found.1, found.2.2.2)

/-- What the text after an opening parenthesis and a question mark asks for. -/
def decodeMarked (flags : Flags) (cs : List Char) : Option (Action × List Char) :=
  match cs with
  | '<' :: rest => decodeName flags rest
  | 'P' :: '<' :: rest => decodeName flags rest
  | cs => decodeFlags flags cs

/-- What an opening parenthesis and the text after it ask for. -/
def decodeGroup (flags : Flags) (cs : List Char) : Option (Action × List Char) :=
  match flags.skip cs with
  | '?' :: rest => decodeMarked flags rest
  | cs => some (.enter none true flags, cs)

/-- What a repetition in braces asks for. -/
def decodeBounds (flags : Flags) (cs : List Char) : Option (Action × List Char) :=
  (untilBrace flags.spaced cs).bind fun found =>
    (bounds? found.1).map fun bounds =>
      let (lazy, rest) := lazyMark (flags.skip found.2)
      (.repetition bounds.1 bounds.2 lazy, rest)

/-- What an item that begins with a character asks for. -/
def decode (flags : Flags) (c : Char) (rest : List Char) : Option (Action × List Char) :=
  let repetition (least : Nat) (most : Option Nat) :=
    some (Action.repetition least most (lazyMark rest).1, (lazyMark rest).2)
  let primitive (primitive : Primitive) (rest : List Char) :=
    (primitive.pattern? flags).map fun pattern => (Action.item pattern 0, rest)
  match c with
  | '(' => decodeGroup flags rest
  | ')' => some (.leave, rest)
  | '|' => some (.alternative, rest)
  | '[' =>
    (bracket flags ('[' :: rest)).map fun found =>
      (.item (.one found.1.set) found.1.depth, found.2)
  | '?' => repetition 0 (some 1)
  | '*' => repetition 0 none
  | '+' => repetition 1 none
  | '\x7b' => decodeBounds flags rest
  | '\\' => (escape flags rest).bind fun found => primitive found.1 found.2
  | '.' => primitive .dot rest
  | '^' =>
    primitive (.assertion (if flags.multiLine then .lineStart flags.returns else .textStart)) rest
  | '$' =>
    primitive (.assertion (if flags.multiLine then .lineEnd flags.returns else .textEnd)) rest
  | c => primitive (.literal c false) rest

/-- The state after an action. -/
def ReaderState.apply (state : ReaderState) : Action → Option ReaderState
  | .enter (some name) _ flags =>
    if state.names.contains name then none
    else some ({ state with names := name :: state.names }.open (some state.nextGroup) flags)
  | .enter none numbered flags =>
    some (state.open (if numbered then some state.nextGroup else none) flags)
  | .switch flags =>
    some { state with
      flags := flags
      level := state.level.push { pattern := .empty, depth := 0, directive := true } }
  | .leave => closeGroup state
  | .alternative => some (nextAlternative state)
  | .item pattern depth =>
    some { state with level := state.level.push { pattern := pattern, depth := depth } }
  | .repetition least most lazy => repeatLast state least most lazy

/-- Opening a named group reads the name and enters the group. -/
theorem openNamed_eq (state : ReaderState) (cs : List Char) :
    openNamed state cs = (groupName cs).bind fun found =>
      (state.apply (.enter (some found.1) true state.flags)).map fun state => (state, found.2) := by
  unfold openNamed ReaderState.apply
  cases groupName cs with
  | none => rfl
  | some found =>
    simp only [Option.bind_eq_bind, Option.bind_some]
    split <;> rfl

/-- Opening a named group is decoding and applying it. -/
theorem openNamed_eq_decodeName (state : ReaderState) (cs : List Char) :
    openNamed state cs = (decodeName state.flags cs).bind fun found =>
      (state.apply found.1).map fun state => (state, found.2) := by
  rw [openNamed_eq, decodeName, Option.bind_map]
  rfl

/-- A name does not begin with a sign of looking around. -/
theorem decodeName_sign (flags : Flags) {c : Char} (sign : isNameChar true c = false)
    (cs : List Char) : decodeName flags (c :: cs) = none := by
  suffices unnamed : groupName (c :: cs) = none by rw [decodeName, unnamed, Option.map_none]
  unfold groupName
  by_cases close : c = '>'
  · subst close
    rfl
  · have kept : decide (c ≠ '>') = true := decide_eq_true close
    simp only [List.takeWhile_cons, kept, ↓reduceIte]
    split
    · next same =>
      obtain ⟨rfl, _⟩ := List.cons.inj same
      simp only [sign, Bool.false_and, Bool.false_eq_true, ↓reduceIte]
    · rfl

theorem decodeMarked_flags (flags : Flags) {cs : List Char} (notName : ∀ rest, cs ≠ '<' :: rest)
    (notLong : ∀ rest, cs ≠ 'P' :: '<' :: rest) : decodeMarked flags cs = decodeFlags flags cs := by
  unfold decodeMarked
  split
  · exact absurd rfl (notName _)
  · exact absurd rfl (notLong _)
  · rfl

theorem openFlags_eq (state : ReaderState) (cs : List Char) :
    ((readFlags state.flags [] false false cs).bind fun (flags, seen, last, rest) =>
      if last = ':' then some (state.open none flags, rest)
      else if seen.isEmpty then none
      else
        some ({ state with
          flags := flags
          level := state.level.push { pattern := .empty, depth := 0, directive := true } }, rest)) =
      (decodeFlags state.flags cs).bind fun found =>
        (state.apply found.1).map fun state => (state, found.2) := by
  unfold decodeFlags
  rw [Option.bind_assoc]
  refine Option.bind_congr fun found _ => ?_
  obtain ⟨flags, seen, last, rest⟩ := found
  by_cases colon : last = ':'
  · simp only [colon, ↓reduceIte, Option.bind_some]
    rfl
  · by_cases empty : seen.isEmpty = true
    · simp only [colon, empty, ↓reduceIte, Option.bind_none]
    · simp only [colon, empty, ↓reduceIte]
      rfl

theorem openGroup_eq (state : ReaderState) (cs : List Char) :
    openGroup state cs = (decodeGroup state.flags cs).bind fun found =>
      (state.apply found.1).map fun state => (state, found.2) := by
  unfold openGroup decodeGroup
  generalize state.flags.skip cs = left
  split
  · rfl
  · rfl
  · simp only [decodeMarked, decodeName_sign state.flags (show isNameChar true '=' = false by
      decide +kernel), Option.bind_none]
  · simp only [decodeMarked, decodeName_sign state.flags (show isNameChar true '!' = false by
      decide +kernel), Option.bind_none]
  · exact openNamed_eq_decodeName state _
  · exact openNamed_eq_decodeName state _
  · next rest _ _ _ _ notLong notName =>
    simp only
    rw [decodeMarked_flags state.flags notName notLong]
    exact openFlags_eq state rest
  · next notMarked =>
    split
    · exact absurd rfl (notMarked _)
    · rfl

/-- The signs that ask for something else than themselves. -/
def itemSigns : List Char :=
  ['(', ')', '|', '[', '?', '*', '+', '\x7b', '\\', '.', '^', '$']

/-- A character that is no sign is decoded to itself. -/
theorem decode_literal (flags : Flags) {c : Char} (plain : c ∉ itemSigns) (rest : List Char) :
    decode flags c rest =
      ((Primitive.literal c false).pattern? flags).map fun pattern => (.item pattern 0, rest) := by
  unfold decode
  split
  case h_13 => rfl
  all_goals exact absurd (by decide) plain

/-- A character that is no sign is read as itself. -/
theorem readItem_literal (state : ReaderState) {c : Char} (plain : c ∉ itemSigns)
    (rest : List Char) : readItem state c rest =
      ((Primitive.literal c false).pattern? state.flags).map fun pattern =>
        ({ state with level := state.level.push { pattern := pattern, depth := 0 } }, rest) := by
  simp only [readItem]
  split
  case h_13 => rfl
  all_goals exact absurd (by decide) plain

/-- Reading an item is finding out what it asks for and doing that. -/
theorem readItem_eq (state : ReaderState) (c : Char) (rest : List Char) :
    readItem state c rest = (decode state.flags c rest).bind fun found =>
      (state.apply found.1).map fun state => (state, found.2) := by
  have primitive (item : Primitive) (rest : List Char) :
      ((item.pattern? state.flags).map fun pattern =>
          ({ state with level := state.level.push { pattern := pattern, depth := 0 } }, rest)) =
        ((item.pattern? state.flags).map fun pattern => (Action.item pattern 0, rest)).bind
          fun found => (state.apply found.1).map fun state => (state, found.2) := by
    cases item.pattern? state.flags <;> rfl
  by_cases sign : c ∈ itemSigns
  swap
  · rw [readItem_literal state sign, decode_literal state.flags sign]
    exact primitive _ rest
  simp only [itemSigns, List.mem_cons, List.not_mem_nil, or_false] at sign
  rcases sign with rfl | rfl | rfl | rfl | rfl | rfl | rfl | rfl | rfl | rfl | rfl | rfl
  · exact openGroup_eq state rest
  · rfl
  · rfl
  · change Option.map _ (bracket state.flags ('[' :: rest)) =
      Option.bind (Option.map _ (bracket state.flags ('[' :: rest))) _
    cases bracket state.flags ('[' :: rest) <;> rfl
  · rfl
  · rfl
  · rfl
  · change (untilBrace state.flags.spaced rest >>= _) = (decodeBounds state.flags rest).bind _
    simp only [decodeBounds, Option.bind_eq_bind, Option.bind_assoc]
    refine Option.bind_congr fun found _ => ?_
    cases bounds? found.1 with
    | none => rfl
    | some bounds =>
      simp only [Option.bind_some, Option.map_some]
      rw [Option.map_eq_bind]
      rfl
  · change (escape state.flags rest).bind _ = ((escape state.flags rest).bind _).bind _
    cases escape state.flags rest with
    | none => rfl
    | some found => exact primitive found.1 found.2
  · exact primitive .dot rest
  · exact primitive (.assertion
      (if state.flags.multiLine then .lineStart state.flags.returns else .textStart)) rest
  · exact primitive (.assertion
      (if state.flags.multiLine then .lineEnd state.flags.returns else .textEnd)) rest

end Scrutiny.Pattern
