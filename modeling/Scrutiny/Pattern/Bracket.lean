import Scrutiny.Pattern.Escape

/-! # Bracketed classes

A bracketed class lists characters, ranges, named classes and further brackets, and may combine
such lists by intersection, difference and symmetric difference, from left to right.
-/

namespace Scrutiny.Pattern

/-- A set and how deeply brackets and operations are nested in it. -/
structure NestedSet where
  set : CharSet
  depth : Nat

/-- The operations between lists. -/
inductive SetOperation where
  | intersection | difference | symmetricDifference
  deriving Repr, DecidableEq

namespace SetOperation

/-- The set that an operation makes of two sets. -/
def apply : SetOperation → CharSet → CharSet → CharSet
  | intersection => .intersection
  | difference => .difference
  | symmetricDifference => .symmetricDifference

end SetOperation

/-- A bracket that is still open: the list it stands in, and its first operand if it has one. -/
structure OpenBracket where
  negated : Bool
  outer : List NestedSet
  operand : Option (SetOperation × NestedSet)

/-- What has been read of a bracketed class: the open brackets, innermost first, and the items of
the current list, latest first. -/
structure BracketState where
  opened : List OpenBracket
  items : List NestedSet

/-- The named classes of the basic range. -/
def basicClass? (name : String) : Option (Char → Bool) :=
  match name with
  | "alnum" => some Char.isAlphanum
  | "alpha" => some Char.isAlpha
  | "ascii" => some fun c => c.toNat < 128
  | "blank" => some fun c => c == ' ' || c == '\t'
  | "cntrl" => some fun c => c.toNat < 32 || c.toNat == 127
  | "digit" => some Char.isDigit
  | "graph" => some fun c => 33 ≤ c.toNat && c.toNat ≤ 126
  | "lower" => some Char.isLower
  | "print" => some fun c => 32 ≤ c.toNat && c.toNat ≤ 126
  | "punct" => some fun c => 33 ≤ c.toNat && c.toNat ≤ 126 && !c.isAlphanum
  | "space" => some basicSpace
  | "upper" => some Char.isUpper
  | "word" => some basicWord
  | "xdigit" => some fun c => (hexValue? c).isSome
  | _ => none

/-- A class of the basic range in its own brackets, after the opening bracket. -/
def basicClass (flags : Flags) (cs : List Char) : Option (CharSet × List Char) :=
  match cs with
  | ':' :: rest =>
    let (negated, rest) := match rest with
      | '^' :: rest => (true, rest)
      | rest => (false, rest)
    let name := rest.takeWhile (· ≠ ':')
    match rest.drop name.length with
    | ':' :: ']' :: rest =>
      (basicClass? (String.ofList name)).map fun test =>
        (flags.foldAndNegate negated (.named test), rest)
    | _ => none
  | _ => none

/-- Hyphens at the start of a list, each of which stands for itself. -/
def leadingHyphens (flags : Flags) : Nat → List Char → Nat × List Char
  | 0, cs => (0, cs)
  | bound + 1, cs =>
    match flags.skip cs with
    | '-' :: rest =>
      let (count, rest) := leadingHyphens flags bound rest
      (count + 1, rest)
    | cs => (0, cs)

/-- The items that only stand at the start of a bracket. -/
def openItems (flags : Flags) (cs : List Char) : List NestedSet × List Char :=
  let (hyphens, cs) := leadingHyphens flags cs.length cs
  let items := List.replicate hyphens ⟨CharSet.single '-', 0⟩
  match flags.skip cs with
  | ']' :: rest =>
    if hyphens = 0 then ([⟨.single ']', 0⟩], rest) else (items, ']' :: rest)
  | cs => (items, cs)

/-- The start of a bracket: whether it is negated, and the items that only stand there. -/
def openBracket (flags : Flags) (cs : List Char) : Bool × List NestedSet × List Char :=
  match flags.skip cs with
  | '^' :: rest => (true, openItems flags rest)
  | cs => (false, openItems flags cs)

/-- The union of the items of a list. -/
def unionItems (items : List NestedSet) : NestedSet :=
  match items with
  | [] => ⟨.empty, 0⟩
  | [only] => only
  | items =>
    ⟨.unionAll (items.reverse.map NestedSet.set),
      (items.map NestedSet.depth).foldl max 0 + 1⟩

/-- The set of a list together with the operand that waits for it. -/
def combine (flags : Flags) (operand : Option (SetOperation × NestedSet)) (right : NestedSet) :
    NestedSet :=
  match operand with
  | none => right
  | some (operation, left) =>
    ⟨operation.apply (flags.fold left.set) (flags.fold right.set), max left.depth right.depth + 1⟩

/-- Whether a set keeps to the basic range where it has to. -/
def staysBasic (flags : Flags) (set : CharSet) : Bool :=
  flags.unicode || (List.range 128).all fun code => !set.has (Char.ofNat (code + 128))

/-- The set of a bracket that closes. -/
def closeBracket (flags : Flags) (bracket : OpenBracket) (items : List NestedSet) :
    Option NestedSet :=
  let inner := combine flags bracket.operand (unionItems items)
  let set := flags.foldAndNegate bracket.negated inner.set
  if staysBasic flags set then some ⟨set, inner.depth + 1⟩ else none

/-- An item that may begin a range. -/
def bracketItem (flags : Flags) : List Char → Option (Primitive × List Char)
  | [] => none
  | '\\' :: rest => escape flags rest
  | c :: rest => some (.literal c false, rest)

/-- Whether a character can stand in a list of characters under the options. -/
def literalAllowed (flags : Flags) (c : Char) (byte : Bool) : Bool :=
  flags.unicode || c.toNat < 128 || byte

/-- The next item of a list: a character, a range or a named class. -/
def bracketRange (flags : Flags) (cs : List Char) : Option (CharSet × List Char) := do
  let (first, rest) ← bracketItem flags cs
  let single : Option (CharSet × List Char) :=
    match first with
    | .literal c byte => if literalAllowed flags c byte then some (.single c, rest) else none
    | .set set => some (set, rest)
    | _ => none
  match flags.skip rest with
  | [] => none
  | '-' :: after =>
    match flags.skip after with
    | [] => none
    | ']' :: _ => single
    | '-' :: _ => single
    | after => do
      let (last, rest) ← bracketItem flags after
      match first, last with
      | .literal low lowByte, .literal high highByte =>
        if low ≤ high ∧ literalAllowed flags low lowByte ∧ literalAllowed flags high highByte then
          some (.range low high, rest)
        else none
      | _, _ => none
  | _ => single

/-- What one item does: reading goes on, or the outermost bracket is closed. -/
inductive BracketStep where
  | more (state : BracketState) (rest : List Char)
  | done (found : NestedSet) (rest : List Char)

/-- The state with one more item in its current list. -/
def BracketState.push (state : BracketState) (item : NestedSet) : BracketState :=
  { state with items := item :: state.items }

/-- The state after an operation sign, which makes the list read so far an operand. -/
def BracketState.operate (flags : Flags) (state : BracketState) (which : SetOperation) :
    Option BracketState :=
  match state.opened with
  | [] => none
  | innermost :: outer =>
    let left := combine flags innermost.operand (unionItems state.items)
    some ⟨{ innermost with operand := some (which, left) } :: outer, []⟩

/-- Read one item of a bracketed class. -/
def bracketStep (flags : Flags) (state : BracketState) (cs : List Char) : Option BracketStep :=
  let operation (which : SetOperation) (rest : List Char) :=
    (state.operate flags which).map fun state => BracketStep.more state rest
  match cs with
  | '[' :: rest =>
    match if state.opened.isEmpty then none else basicClass flags rest with
    | some (set, rest) => some (.more (state.push ⟨set, 0⟩) rest)
    | none =>
      let (negated, items, rest) := openBracket flags rest
      some (.more ⟨⟨negated, state.items, none⟩ :: state.opened, items⟩ rest)
  | ']' :: rest =>
    match state.opened with
    | [] => none
    | innermost :: outer =>
      (closeBracket flags innermost state.items).map fun set =>
        if outer.isEmpty then .done set rest else .more ⟨outer, set :: innermost.outer⟩ rest
  | '&' :: '&' :: rest => operation .intersection rest
  | '-' :: '-' :: rest => operation .difference rest
  | '~' :: '~' :: rest => operation .symmetricDifference rest
  | cs => (bracketRange flags cs).map fun found => .more (state.push ⟨found.1, 0⟩) found.2

/-- Read a bracketed class to its end from a state. The number bounds the items. -/
def bracketLoop (flags : Flags) :
    Nat → BracketState → List Char → Option (NestedSet × List Char)
  | 0, _, _ => none
  | bound + 1, state, cs =>
    match bracketStep flags state (flags.skip cs) with
    | none => none
    | some (.done found rest) => some (found, rest)
    | some (.more state rest) => bracketLoop flags bound state rest

/-- Read a bracketed class that begins with its opening bracket. -/
def bracket (flags : Flags) (cs : List Char) : Option (NestedSet × List Char) :=
  bracketLoop flags (cs.length + 1) ⟨[], []⟩ cs

end Scrutiny.Pattern
