import ParticipantRegistry.Json.Basic
import ParticipantRegistry.Number.Shortest
import ParticipantRegistry.Text.Quoted

/-!
# Values as plain text

Where a stored record holds some other value in place of a text, the value's plain text is taken:
a text stays as it is, `None`, `True` and `False` stand for the literal names, and arrays and objects
are listed in brackets with their texts quoted.

Severities, decisions and outcomes go by names. `UnknownName.read` finds the value that a name stands
for; anything else, a value that is no text included, is refused and told as it is quoted.
-/

namespace ParticipantRegistry

namespace Json

mutual

/-- The text of a value inside another one. -/
def quoted : Json → Text
  | .null => "None"
  | .bool b => if b then "True" else "False"
  | .int i => Text.ofInt i
  | .float x => x.toText
  | .string t => t.quoted
  | .array [] => "[]"
  | .array (item :: items) => "[" ++ quoted item ++ quotedItems items ++ "]"
  | .object [] => "\x7b\x7d"
  | .object ((name, value) :: ms) =>
    "\x7b" ++ name.quoted ++ ": " ++ quoted value ++ quotedMembers ms ++ "\x7d"

def quotedItems : List Json → Text
  | [] => []
  | item :: items => ", " ++ quoted item ++ quotedItems items

def quotedMembers : Members → Text
  | [] => []
  | (name, value) :: ms => ", " ++ name.quoted ++ ": " ++ quoted value ++ quotedMembers ms

end

def display : Json → Text
  | .string t => t
  | value => quoted value

end Json

structure UnknownName where
  name : Json
  kind : Text
  deriving DecidableEq

namespace UnknownName

def message (e : UnknownName) : Text := e.name.quoted ++ " is not a valid " ++ e.kind

def read {α : Type} (kind : Text) (values : List α) (nameOf : α → Text) (name : Json) :
    Except UnknownName α :=
  match values.find? fun a => name = .string (nameOf a) with
  | some a => .ok a
  | none => .error ⟨name, kind⟩

end UnknownName

end ParticipantRegistry
