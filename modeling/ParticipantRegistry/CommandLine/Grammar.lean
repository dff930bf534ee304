import ParticipantRegistry.Text.WordCharacter

/-!
# Arguments

A grammar names the options of a command and says what stands besides them: nothing, one word, or a
further command with all that follows. `Grammar.scan` sorts arguments by it.

An option is known by its name, by `name=value`, or by an initial part of a long name that no other
option shares. After two dashes alone everything is a word; words may also be negative numbers or
hold a blank. Asking for help ends the scan at that place.
-/

namespace ParticipantRegistry.CommandLine

inductive OptionKind where
  | help
  | flag
  | valued
  deriving DecidableEq

structure OptionName where
  text : Text
  kind : OptionKind
  /-- The name that all spellings of the option share. -/
  canonical : Text
  deriving DecidableEq

inductive Operand where
  | nothing
  | word
  | command
  deriving DecidableEq

structure Grammar where
  options : List OptionName
  operand : Operand

inductive Stop where
  | help
  | ambiguous (argument : Text)
  | noValue (option : Text)
  | needlessValue (option : Text)
  deriving DecidableEq

inductive Mark where
  | word
  | dashes
  | option (name : OptionName) (value : Option Text)
  | unknownOption
  deriving DecidableEq

structure Argument where
  text : Text
  mark : Mark
  deriving DecidableEq

structure Scanned where
  settings : List (Text × Option Text) := []
  /-- The operand: one word, or a command with everything after it. -/
  operand : Option (List Text) := none
  /-- Arguments that have no place. -/
  surplus : List Text := []
  deriving DecidableEq

namespace Grammar

def helpNames : List OptionName := [⟨"-h", .help, "help"⟩, ⟨"--help", .help, "help"⟩]

def names (g : Grammar) : List OptionName := helpNames ++ g.options

def find? (g : Grammar) (t : Text) : Option OptionName := g.names.find? (·.text = t)

def splitValue (t : Text) : Text × Option Text :=
  let name := t.takeWhile (· ≠ ('=' : CodePoint))
  if name.length < t.length then (name, some (t.drop (name.length + 1))) else (name, none)

/-- The options that an argument may be short for, with the value in it. -/
def candidates (g : Grammar) (t : Text) : List (OptionName × Option Text) :=
  match t with
  | _ :: c :: _ =>
    if c = '-' then
      let (start, value) := splitValue t
      (g.names.filter fun n => start.isPrefixOf n.text).map fun n => (n, value)
    else
      g.names.filterMap fun n =>
        if n.text = t.take 2 then some (n, some (t.drop 2))
        else if t.isPrefixOf n.text then some (n, none)
        else none
  | _ => []

/-- Whether a dash is followed by a decimal number, which may end its line. -/
def isNegativeNumber (t : Text) : Bool :=
  let digits : Text := t.drop 1
  let digits := if digits.getLast? = some ('\n' : CodePoint) then digits.dropLast else digits
  let whole : Text := digits.takeWhile CodePoint.isDecimal
  match digits.drop whole.length with
  | [] => whole ≠ []
  | c :: fraction => c = '.' && fraction ≠ [] && fraction.all CodePoint.isDecimal

def markUnknown (g : Grammar) (t : Text) : Except Stop Mark :=
  match g.candidates t with
  | [(name, value)] => .ok (.option name value)
  | _ :: _ :: _ => .error (.ambiguous t)
  | [] =>
    if isNegativeNumber t || t.contains (' ' : CodePoint) then .ok .word else .ok .unknownOption

def mark (g : Grammar) (t : Text) : Except Stop Mark :=
  if t.head? ≠ some ('-' : CodePoint) then .ok .word
  else
    match g.find? t with
    | some name => .ok (.option name none)
    | none =>
      if t.length = 1 then .ok .word
      else
        match splitValue t with
        | (start, some value) =>
          match g.find? start with
          | some name => .ok (.option name (some value))
          | none => g.markUnknown t
        | (_, none) => g.markUnknown t

def markAll (g : Grammar) : List Text → Except Stop (List Argument)
  | [] => .ok []
  | t :: rest =>
    if t = "--" then .ok (⟨t, .dashes⟩ :: rest.map fun word => ⟨word, .word⟩)
    else do
      let mark ← g.mark t
      return ⟨t, mark⟩ :: (← g.markAll rest)

def setting (name : Text) (value : Option Text) (s : Scanned) : Scanned :=
  { s with settings := (name, value) :: s.settings }

def surplus (t : Text) (s : Scanned) : Scanned := { s with surplus := t :: s.surplus }

/-- What comes of a value in the argument of an option that takes none. Behind a short name it is a row
of further short names, and only help has one. The whole row is looked at before any name in it is
followed, so `-hx` is refused and gives no help; readers of arguments that follow the first name at
once would give it. -/
def joinedStop (name : OptionName) (value : Text) : Stop :=
  if name.text = "-h" ∧ value ≠ [] ∧ value.all (· = ('h' : CodePoint)) then .help
  else .needlessValue name.text

def sort (operand : Operand) : List Argument → Except Stop Scanned
  | [] => .ok {}
  | ⟨t, .unknownOption⟩ :: rest => return surplus t (← sort operand rest)
  | ⟨_, .option name (some value)⟩ :: rest =>
    if name.kind = .valued then return setting name.canonical (some value) (← sort operand rest)
    else .error (joinedStop name value)
  | ⟨_, .option name none⟩ :: rest =>
    match name.kind with
    | .help => .error .help
    | .flag => return setting name.canonical none (← sort operand rest)
    | .valued =>
      match rest with
      | ⟨value, .word⟩ :: rest => return setting name.canonical (some value) (← sort operand rest)
      | _ => .error (.noValue name.text)
  | ⟨t, .word⟩ :: rest =>
    match operand with
    | .nothing => return surplus t (← sort .nothing rest)
    | .command => .ok { operand := some (t :: rest.map (·.text)) }
    | .word =>
      match rest with
      | ⟨_, .dashes⟩ :: rest => return { ← sort .nothing rest with operand := some [t] }
      | rest => return { ← sort .nothing rest with operand := some [t] }
  | ⟨t, .dashes⟩ :: rest =>
    match operand, rest with
    | .command, _ :: _ => .ok { operand := some (t :: rest.map (·.text)) }
    | .word, ⟨word, _⟩ :: rest => return { ← sort .nothing rest with operand := some [word] }
    | operand, rest => return surplus t (← sort operand rest)

def scan (g : Grammar) (arguments : List Text) : Except Stop Scanned := do
  sort g.operand (← g.markAll arguments)

end Grammar

namespace Scanned

def has (name : Text) (s : Scanned) : Bool := s.settings.any (·.1 = name)

def value? (name : Text) (s : Scanned) : Option Text :=
  (s.settings.reverse.lookup name).join

end Scanned

end ParticipantRegistry.CommandLine
