import Scrutiny.Json.Token

/-! # Documents from text

The words of a document are read against a stack of the lists and objects that are still open.
A name that occurs twice in an object keeps its first place and takes its last value.
-/

namespace Scrutiny.Json

/-- A list or an object that is still open. -/
inductive Frame where
  | list (items : List Value)
  | object (members : Entries Value) (key : String)

/-- What may come next. -/
inductive Expect where
  /-- A value has to follow. -/
  | value
  /-- A value or the end of a list that has just been opened. -/
  | firstItem
  /-- A member name or the end of an object that has just been opened. -/
  | firstKey (members : Entries Value)
  /-- A member name has to follow. -/
  | key (members : Entries Value)
  /-- The colon after a member name. -/
  | colon (members : Entries Value) (name : String)
  /-- A separator or a closing bracket after a complete value. -/
  | rest (value : Value)

/-- The greatest number of lists and objects inside each other. -/
def maxDepth : Nat := 127

/-- Read words against the open lists and objects, innermost first. -/
def assemble (expect : Expect) (open_ : List Frame) : List Token → Option Value
  | [] =>
    match expect, open_ with
    | .rest value, [] => some value
    | _, _ => none
  | token :: tokens =>
    let value (token : Token) : Option Value :=
      match token with
      | .atom value => assemble (.rest value) open_ tokens
      | .openList =>
        if open_.length < maxDepth then assemble .firstItem (.list [] :: open_) tokens else none
      | .openObject =>
        if open_.length < maxDepth then assemble (.firstKey []) (.object [] "" :: open_) tokens
        else none
      | _ => none
    let key (members : Entries Value) : Option Value :=
      match token with
      | .atom (.string name) => assemble (.colon members name) open_ tokens
      | _ => none
    match expect with
    | .value => value token
    | .firstItem =>
      match token, open_ with
      | .closeList, .list items :: outer => assemble (.rest (.list items)) outer tokens
      | token, _ => value token
    | .firstKey members =>
      match token, open_ with
      | .closeObject, .object _ _ :: outer =>
        assemble (.rest (.object members)) outer tokens
      | _, _ => key members
    | .key members => key members
    | .colon members name =>
      match token, open_ with
      | .colon, .object _ _ :: outer =>
        assemble .value (.object members name :: outer) tokens
      | _, _ => none
    | .rest done =>
      match token, open_ with
      | .comma, .list items :: outer => assemble .value (.list (items ++ [done]) :: outer) tokens
      | .closeList, .list items :: outer =>
        assemble (.rest (.list (items ++ [done]))) outer tokens
      | .comma, .object members name :: outer =>
        assemble (.key (Entries.put members name done)) (.object [] "" :: outer) tokens
      | .closeObject, .object members name :: outer =>
        assemble (.rest (.object (Entries.put members name done))) outer tokens
      | _, _ => none

/-- The value that a text denotes, or nothing if it is not a document. -/
def read (text : String) : Option Value :=
  (tokens text).bind (assemble .value [])

end Scrutiny.Json
