import Scrutiny.Yaml.Tokens

/-! # Nodes

The words of a text make one tree. A node that is named elsewhere is found by its number.
-/

namespace Scrutiny.Yaml

/-- A scalar as it is written: its characters, whether it stands without quotes, and its tag. -/
structure Scalar where
  text : String
  plain : Bool
  tag : Option String

/-- A node of the tree. -/
inductive Node where
  | scalar (scalar : Scalar)
  | list (tag : Option String) (items : List Node)
  | mapping (tag : Option String) (entries : List (Node × Node))
  /-- The node that has a number. -/
  | reference (number : Nat)

instance : Inhabited Node := ⟨.reference 0⟩

/-- What is known while words are read. -/
structure Reading where
  words : List Token
  /-- The numbers of names. -/
  names : List (String × Nat) := []
  /-- The nodes that have been given a number, latest first. -/
  nodes : List (Nat × Node) := []
  /-- What handles of tags stand for. -/
  handles : List (String × String) := [("!", "!"), ("!!", "tag:yaml.org,2002:")]

/-- A step of reading, which may fail. -/
abbrev Read := StateT Reading Option

namespace Read

/-- The next word, if there is one. -/
def peek : Read (Option Token) := do
  return (← get).words.head?

/-- Leave the next word behind. -/
def advance : Read Unit :=
  modify fun reading => { reading with words := reading.words.drop 1 }

/-- Leave the next word behind if it is the given one, and say whether it was. -/
def accept (token : Token) : Read Bool := do
  if (← peek) == some token then
    advance
    return true
  else return false

/-- Whether the next word is one of a list, or there is none. -/
def sees (tokens : List Token) : Read Bool := do
  match ← peek with
  | some token => return tokens.contains token
  | none => return true

/-- Number a name. The number is that of the names known before, so a name that is given again may
get the number of another, and share its node. -/
def number (name : String) : Read Nat := do
  let reading ← get
  let names := reading.names
  set { reading with names := (name, names.length) :: names.filter fun known => known.1 != name }
  return names.length

/-- Record the node of a number. -/
def record (number : Option Nat) (node : Node) : Read Node := do
  match number with
  | some number =>
    modify fun reading => { reading with nodes := (number, node) :: reading.nodes }
    return node
  | none => return node

/-- The name and the tag before a node, in either order. -/
structure Properties where
  number : Option Nat := none
  tag : Option String := none

/-- A tag in full. -/
def tagOf (handle suffix : String) : Read String := do
  if handle.isEmpty then return suffix
  else
    match (← get).handles.lookup handle with
    | some value => return value ++ suffix
    | none => failure

/-- Read the name and the tag before a node. -/
def properties : Nat → Properties → Read Properties
  | 0, found => return found
  | count + 1, found => do
    match ← peek with
    | some (.anchor name) =>
      if found.number.isSome then return found
      advance
      properties count { found with number := some (← number name) }
    | some (.tag handle suffix) =>
      if found.tag.isSome then return found
      advance
      properties count { found with tag := some (← tagOf handle suffix) }
    | _ => return found

/-- A place where nothing is written. -/
def nothing : Node :=
  .scalar ⟨"", true, none⟩

mutual

/-- Read a node. Blocks may begin here if `block`, and a list without indentation of its own if
`loose`. -/
def node (block loose : Bool) : Nat → Read Node
  | 0 => failure
  | count + 1 => do
    match ← peek with
    | some (.reference name) =>
      advance
      match (← get).names.lookup name with
      | some number => return .reference number
      | none => failure
    | _ =>
      let found ← properties 2 {}
      record found.number (← content block loose found.tag (found.number.isSome) count)

/-- Read what a node holds, after its name and tag. -/
def content (block loose : Bool) (tag : Option String) (named : Bool) : Nat → Read Node
  | 0 => failure
  | count + 1 => do
    match ← peek with
    | some (.scalar text plain) =>
      advance
      return .scalar ⟨text, plain, if tag == some "!" then none else tag⟩
    | some .flowListStart =>
      advance
      return .list tag (← flowItems true count)
    | some .flowMapStart =>
      advance
      return .mapping tag (← flowEntries true count)
    | other =>
      if loose && other == some .entry then return .list tag (← looseItems count)
      else if block && other == some .blockListStart then
        advance
        return .list tag (← blockItems count)
      else if block && other == some .blockMapStart then
        advance
        return .mapping tag (← blockEntries count)
      else if named || tag.isSome then return .scalar ⟨"", true, tag⟩
      else failure

/-- Read a node, or nothing if the next word is one of a list. -/
def nodeUnless (ends : List Token) (block loose : Bool) : Nat → Read Node
  | 0 => failure
  | count + 1 => do
    if ← sees ends then return nothing else node block loose count

/-- Read the items of a block up to its end. -/
def blockItems : Nat → Read (List Node)
  | 0 => failure
  | count + 1 => do
    if ← accept .entry then
      let item ← nodeUnless [.entry, .blockEnd] true false count
      return item :: (← blockItems count)
    else if ← accept .blockEnd then return []
    else failure

/-- Read the items of a list that has no block of its own. -/
def looseItems : Nat → Read (List Node)
  | 0 => failure
  | count + 1 => do
    if ← accept .entry then
      let item ← nodeUnless [.entry, .key, .value, .blockEnd] true false count
      return item :: (← looseItems count)
    else return []

/-- Read the entries of a block up to its end. -/
def blockEntries : Nat → Read (List (Node × Node))
  | 0 => failure
  | count + 1 => do
    let ends := [.key, .value, .blockEnd]
    if ← accept .key then
      let key ← nodeUnless ends true true count
      let value ← if ← accept .value then nodeUnless ends true true count else pure nothing
      return (key, value) :: (← blockEntries count)
    else if ← accept .blockEnd then return []
    else failure

/-- Read the items between brackets up to the closing one. An item may be a single entry of a
mapping. -/
def flowItems (first : Bool) : Nat → Read (List Node)
  | 0 => failure
  | count + 1 => do
    if ← accept .flowListEnd then return []
    unless first || (← accept .comma) do failure
    if ← accept .flowListEnd then return []
    let item ← if ← accept .key then singleEntry count else node false false count
    return item :: (← flowItems false count)

/-- Read an item that is an entry of a mapping. Where its key is left out, the word in its place is
passed over, the colon of the entry included. -/
def singleEntry : Nat → Read Node
  | 0 => failure
  | count + 1 => do
    let key ← if ← sees [.value, .comma, .flowListEnd] then do
        advance
        pure nothing
      else node false false count
    let value ← if ← accept .value then
        nodeUnless [.comma, .flowListEnd] false false count
      else pure nothing
    return .mapping none [(key, value)]

/-- Read the entries between braces up to the closing one. -/
def flowEntries (first : Bool) : Nat → Read (List (Node × Node))
  | 0 => failure
  | count + 1 => do
    if ← accept .flowMapEnd then return []
    unless first || (← accept .comma) do failure
    if ← accept .flowMapEnd then return []
    let ends := [.comma, .flowMapEnd]
    if ← accept .key then
      let key ← nodeUnless (.value :: ends) false false count
      let value ← if ← accept .value then nodeUnless ends false false count else pure nothing
      return (key, value) :: (← flowEntries false count)
    else
      let key ← node false false count
      return (key, nothing) :: (← flowEntries false count)

end

/-- Read the lines before a document that give its version, at most once, and its handles, each at
most once. The answer says whether there are any. -/
def directives (versioned : Bool) (given : List String) : Nat → Read Bool
  | 0 => failure
  | count + 1 => do
    match ← peek with
    | some (.version major minor) =>
      if versioned || major != 1 || !(minor == 1 || minor == 2) then failure
      advance
      directives true given count
    | some (.handle name value) =>
      if given.contains name then failure
      advance
      modify fun reading => { reading with handles := (name, value) :: reading.handles }
      directives versioned (name :: given) count
    | _ => return versioned || !given.isEmpty

/-- Read marks of the end of a document. -/
def documentEnds : Nat → Read Unit
  | 0 => return
  | count + 1 => do
    if ← accept .documentEnd then documentEnds count

/-- Read the only document of a text. A text without one is like a document with nothing in it. -/
def document (count : Nat) : Read Node := do
  if (← peek).isNone then return nothing
  let directed ← directives false [] count
  let started ← accept .documentStart
  if directed && !started then failure
  let isEmpty ← sees [.documentStart, .documentEnd]
  let directiveNext := match ← peek with
    | some (.version ..) => true
    | some (.handle ..) => true
    | _ => false
  let root ← if started && (isEmpty || directiveNext) then pure nothing
    else node true false count
  documentEnds count
  if (← peek).isSome then failure
  return root

end Read

/-- The tree of a text, and the nodes that have numbers. -/
def tree? (text : String) : Option (Node × List (Nat × Node)) := do
  let words ← tokens? text
  let (root, reading) ← (Read.document (4 * words.length + 8)).run { words := words }
  some (root, reading.nodes)

end Scrutiny.Yaml
