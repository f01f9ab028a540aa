/-! # Path keys

The place of a message is written as a key: a field at the root by its name, and everything below
it in brackets after the key of what encloses it, list elements by their position.
-/

namespace Scrutiny.Path

/-- The key of a field of the entity whose own key is given; the root has the empty key. -/
def fieldKey (parent field : String) : String :=
  if parent.isEmpty then field else parent ++ "[" ++ field ++ "]"

/-- The key of an element of the list whose key is given. -/
def elementKey (list : String) (index : Nat) : String :=
  list ++ "[" ++ toString index ++ "]"

/-- Whether a list of characters begins another, and what follows it there. -/
def afterPrefix : List Char → List Char → Option (List Char)
  | [], rest => some rest
  | _ :: _, [] => none
  | c :: cs, d :: ds => if c = d then afterPrefix cs ds else none

/-- Whether a key is another key or lies below it; everything lies below the empty key. -/
def isUnder (key parent : String) : Bool :=
  parent.isEmpty ||
    match afterPrefix parent.toList key.toList with
    | some [] => true
    | some (c :: _) => c == '['
    | none => false

end Scrutiny.Path
