import ParticipantRegistry.Exchange.ActionLog

/-!
# Printed messages

How messages are printed is settled once; later settings count only if they are forced. The level
from which on messages are printed is an integer or the name of one.
-/

namespace ParticipantRegistry

inductive LevelError where
  | unknownName (name : Text)
  | notALevel (value : Json)
  deriving DecidableEq

def LevelError.message : LevelError → Text
  | .unknownName name => "Unknown level: " ++ name.quoted
  | .notALevel value => "Level not an integer or a valid string: " ++ value.quoted

structure Printing where
  /-- An integer, or the truth value that it was given by. -/
  level : Json
  pattern : Text
  timePattern : Text
  deriving DecidableEq

namespace Printing

def namedLevels : List (Text × Int) :=
  [("CRITICAL", 50), ("FATAL", 50), ("ERROR", 40), ("WARN", 30), ("WARNING", 30), ("INFO", 20),
    ("DEBUG", 10), ("NOTSET", 0)]

def readLevel : Json → Except LevelError (Option Json)
  | .null => .ok none
  | .int i => .ok (some (.int i))
  | .bool b => .ok (some (.bool b))
  | .string name =>
    match namedLevels.lookup name with
    | some i => .ok (some (.int i))
    | none => .error (.unknownName name)
  | value => .error (.notALevel value)

/-- The level before any is asked for: that of warnings. -/
def initialLevel : Json := .int 30

def atLevel (level : Json) : Printing where
  level
  pattern := "%(asctime)s %(levelname)s [%(name)s] %(message)s"
  timePattern := "%H:%M:%S"

def settle (level : Json) (force : Bool) (settled : Option Printing) :
    Except LevelError Printing := do
  match settled, force with
  | some settled, false => return settled
  | _, _ =>
    let before := (settled.map (·.level)).getD initialLevel
    return atLevel ((← readLevel level).getD before)

end Printing

end ParticipantRegistry
