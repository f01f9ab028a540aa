import Scrutiny.DeclarationError
import Scrutiny.Template.Reader
import Scrutiny.Template.Render

/-! # Message catalogs

The messages of checks are templates by name. A template that cannot be read never enters a
catalog.
-/

namespace Scrutiny

/-- Templates by name. -/
structure Messages where
  templates : Entries Template

namespace Messages

/-- The messages of the built-in checks. -/
def standardTexts : List (String × String) := [
  ("required", "\x7blabel\x7d is required"),
  ("required_if", "\x7blabel\x7d is required when \x7bother\x7d is \x7bexpected\x7d"),
  ("same_as", "\x7blabel\x7d must match \x7bother\x7d"),
  ("min_length", "\x7blabel\x7d must be at least \x7bmin\x7d characters"),
  ("max_length", "\x7blabel\x7d must be at most \x7bmax\x7d characters"),
  ("min", "\x7blabel\x7d must be at least \x7bmin\x7d"),
  ("max", "\x7blabel\x7d must be at most \x7bmax\x7d"),
  ("integer", "\x7blabel\x7d must be an integer"),
  ("number", "\x7blabel\x7d must be a number"),
  ("one_of", "\x7blabel\x7d must be one of: \x7bchoices\x7d"),
  ("regex", "\x7blabel\x7d has an invalid format"),
  ("email", "\x7blabel\x7d must be a valid email address"),
  ("datetime", "\x7blabel\x7d must be a valid date or time"),
  ("banned_words", "\x7blabel\x7d must not contain \"\x7bword\x7d\"")]

/-- Add or replace a template. -/
def set (messages : Messages) (name text : String) : Except DeclarationError Messages :=
  match Template.read text with
  | .ok template => .ok ⟨messages.templates.put name template⟩
  | .error .brokenOff => .error (.brokenTemplate name)
  | .error fault => .error (.invalidTemplate name fault.message)

/-- Add or replace templates in turn. -/
def setAll (messages : Messages) : List (String × String) → Except DeclarationError Messages
  | [] => .ok messages
  | (name, text) :: rest =>
    match messages.set name text with
    | .ok messages => messages.setAll rest
    | .error error => .error error

/-- The catalog of the built-in checks. -/
def standard : Messages where
  templates := standardTexts.filterMap fun (name, text) =>
    (Template.read text).toOption.map fun template => (name, template)

/-- Whether a catalog has a template of a name. -/
def has (messages : Messages) (name : String) : Bool :=
  messages.templates.has name

/-- The message of a name for a value. -/
def render (messages : Messages) (name : String) (context : Value) :
    Except DeclarationError String :=
  match messages.templates.get? name with
  | none => .error (.missingTemplate name)
  | some template =>
    (template.write name context).mapError fun fault => .invalidTemplate name fault.message

end Messages

end Scrutiny
