import ParticipantRegistry.Json.Basic

/-!
# Values of any kind

What a value holds if it is of one kind, and nothing of that kind otherwise; and the same for a
member of an object, where a member that is not there counts as `null`.
-/

namespace ParticipantRegistry

namespace Json

def items : Json → List Json
  | .array values => values
  | _ => []

/-- The parts of a value, if it has parts: the items of an array, the code points of a text, the names
of an object. -/
def parts? : Json → Option (List Json)
  | .array values => some values
  | .string t => some (t.map fun c => .string [c])
  | .object ms => some ((names ms).map .string)
  | _ => none

def text? : Json → Option Text
  | .string t => some t
  | _ => none

def text (value : Json) : Text := value.text?.getD []

def texts (value : Json) : List Text := value.items.map text

def isObject : Json → Bool
  | .object _ => true
  | _ => false

def isTrue : Json → Bool
  | .bool b => b
  | _ => false

/-- Whether a value counts as given: empty, zero and false ones do not. -/
def isGiven : Json → Bool
  | .null => false
  | .bool b => b
  | .int i => i != 0
  | .float x => !x.isZero
  | .string t => t != []
  | .array items => !items.isEmpty
  | .object ms => !ms.isEmpty

def integer? : Json → Option Int
  | .int i => some i
  | _ => none

namespace Members

def has (name : Text) (ms : Members) : Bool := (ms.lookup name).isSome

def get (name : Text) (ms : Members) : Json := (ms.lookup name).getD .null

def items (name : Text) (ms : Members) : List Json := (ms.get name).items

def text? (name : Text) (ms : Members) : Option Text := (ms.get name).text?

def text (name : Text) (ms : Members) : Text := (ms.get name).text

def textOr (name fallback : Text) (ms : Members) : Text :=
  if ms.has name then ms.text name else fallback

def texts (name : Text) (ms : Members) : List Text := (ms.get name).texts

def flag (name : Text) (fallback : Bool) (ms : Members) : Bool :=
  if ms.has name then (ms.get name).isGiven else fallback

end Members

end Json

end ParticipantRegistry
