import ParticipantRegistry.Application.Exchange
import ParticipantRegistry.CommandLine.Command

/-!
# The program

The program reads a command from its arguments, carries it out and ends with a status: none if all
went well, 0 if it only helped, 1 if the command failed or an import recorded errors, and 2 if the
arguments cannot be used.
-/

namespace ParticipantRegistry.CommandLine

namespace Command

/-- What speaks against a command whatever the registry holds. -/
def objection? (disk : Disk) : Command → Except FileError (Option Failure)
  | .importFile file _ _ => do
    return if ← disk.hasFile file then none else some (.noImportFile file.toText)
  | .exportFile _ _ => return none
  | .createUser id _ => return if id.isBlank then some .blankUserId else none

def severityCounts (log : ActionLog) : List (Severity × Nat) :=
  Severity.all.map fun severity => (severity, (log.bySeverity severity).length)

/-- Carries out a command; the status is that of an import with errors, or none. -/
def perform : Command → Task Host (Option Nat)
  | .importFile file overwrite defaultOwnerId => do
    let overwriteExisting := if overwrite then some true else none
    let log ←
      Host.importFile file.toText
        { overwriteExisting, defaultOwnerId := Json.ofText? defaultOwnerId }
    Task.tell (.importSummary (severityCounts log))
    if log.hasError then
      Task.tell (.importHadErrors file.toText)
      return some 1
    return none
  | .exportFile file withCards => do
    let document ← Host.exportFile file.toText withCards {}
    Task.tell (.exportSummary document.serviceGroups.length document.businessCards.length)
    return none
  | .createUser id displayName => do
    Host.createUser ⟨.string id, .string displayName⟩
    Task.tell (.userSummary id)
    return none

def carryOut (command : Command) : Task Host (Option Nat) := fun d =>
  match perform command d with
  | (.ok status, d) => (.ok status, d)
  | (.error failure, d) =>
    (.ok (some 1), { d with journal := d.journal ++ [.commandFailed command.name failure] })

end Command

def run (arguments : List Text) : Task Host (Option Nat) := do
  match Command.read arguments with
  | .error refusal => return some refusal.status
  | .ok command =>
    match ← Task.ofExcept .file (command.objection? (← Task.content).disk) with
    | some failure =>
      Task.tell (.argumentsRefused failure)
      return some 2
    | none => command.carryOut

end ParticipantRegistry.CommandLine
