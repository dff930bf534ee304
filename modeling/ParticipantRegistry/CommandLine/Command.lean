import ParticipantRegistry.CommandLine.Grammar
import ParticipantRegistry.Files.Path

/-!
# Commands

The program imports a document file, exports one, or creates a user. `Command.read` reads a command
from arguments; arguments that have no place are refused after everything else has been looked at.
-/

namespace ParticipantRegistry.CommandLine

inductive Command where
  | importFile (file : Path) (overwrite : Bool) (defaultOwner : Option Text)
  | exportFile (file : Path) (withCards : Bool)
  | createUser (id displayName : Text)
  deriving DecidableEq

namespace Command

def name : Command → Text
  | .importFile .. => "import"
  | .exportFile .. => "export"
  | .createUser .. => "user"

end Command

inductive Refusal where
  | help
  | usage
  deriving DecidableEq

def Refusal.status : Refusal → Nat
  | .help => 0
  | .usage => 2

namespace Grammar

def flag (text canonical : Text) : OptionName := ⟨text, .flag, canonical⟩

def valued (text canonical : Text) : OptionName := ⟨text, .valued, canonical⟩

def top : Grammar := ⟨[flag "--verbose" "verbose"], .command⟩

def importing : Grammar :=
  ⟨[flag "--overwrite" "overwrite", valued "--default-owner" "default_owner"], .word⟩

def exporting : Grammar := ⟨[flag "--include-business-cards" "cards"], .word⟩

def users : Grammar := ⟨[], .command⟩

def creating : Grammar := ⟨[valued "--id" "id", valued "--name" "name"], .nothing⟩

end Grammar

def Stop.refusal : Stop → Refusal
  | .help => .help
  | _ => .usage

/-- Sorts arguments; those without a place are returned to be refused later. -/
def scanBy (g : Grammar) (arguments : List Text) : Except Refusal (Scanned × List Text) :=
  match g.scan arguments with
  | .ok s => .ok (s, s.surplus)
  | .error stop => .error stop.refusal

def unlessSurplus {α : Type} (surplus : List Text) (a : α) : Except Refusal α :=
  if surplus = [] then .ok a else .error .usage

def readImport (before arguments : List Text) : Except Refusal Command := do
  let (s, surplus) ← scanBy .importing arguments
  match s.operand with
  | some [file] =>
    unlessSurplus (before ++ surplus)
      (.importFile (Path.read file) (s.has "overwrite") (s.value? "default_owner"))
  | _ => .error .usage

def readExport (before arguments : List Text) : Except Refusal Command := do
  let (s, surplus) ← scanBy .exporting arguments
  match s.operand with
  | some [file] =>
    unlessSurplus (before ++ surplus) (.exportFile (Path.read file) (s.has "cards"))
  | _ => .error .usage

def readCreate (before arguments : List Text) : Except Refusal Command := do
  let (s, surplus) ← scanBy .creating arguments
  match s.value? "id", s.value? "name" with
  | some id, some displayName =>
    unlessSurplus (before ++ surplus) (.createUser id displayName)
  | _, _ => .error .usage

def readUser (before arguments : List Text) : Except Refusal Command := do
  let (s, surplus) ← scanBy .users arguments
  match s.operand with
  | some (command :: rest) =>
    if command = "create" then readCreate (before ++ surplus) rest else .error .usage
  | _ => .error .usage

def Command.read (arguments : List Text) : Except Refusal Command := do
  let (s, surplus) ← scanBy .top arguments
  match s.operand with
  | some (command :: rest) =>
    if command = "import" then readImport surplus rest
    else if command = "export" then readExport surplus rest
    else if command = "user" then readUser surplus rest
    else .error .usage
  | _ => .error .usage

def isVerbose (arguments : List Text) : Bool :=
  match scanBy .top arguments with
  | .ok (s, _) => s.has "verbose"
  | .error _ => false

end ParticipantRegistry.CommandLine
