import ParticipantRegistry.CommandLine.Program
import ParticipantRegistry.Json.Reader
import ParticipantRegistry.Json.Writer
import ParticipantRegistry.Relational.Snapshot

/-!
# The executable

The executable puts that part of the real disk that a command can reach onto a `Disk`, carries the
command out, writes back what has changed and prints what was told. A database lies in its file as a
snapshot.
-/

namespace ParticipantRegistry.Executable

def settingNames : List String :=
  ["DATABASE_URI", "SMPEXCHANGE_DATA_DIR", "XDG_DATA_HOME", "HOME",
    "SMPEXCHANGE_DIRECTORY_INTEGRATION", "SMPEXCHANGE_OVERWRITE_EXISTING",
    "SMPEXCHANGE_DEFAULT_OWNER"]

def usage : String :=
  "usage: [--verbose] import FILE [--overwrite] [--default-owner ID]\n" ++
    "       [--verbose] export FILE [--include-business-cards]\n" ++
    "       [--verbose] user create --id ID --name NAME"

def fileName (place : DiskPlace) : String := (Path.ofPlace place).toText.toStringLossy

def readDatabase (content : Octets) : Option Database := do
  let text ← Utf8.decode content
  (Json.read text).toOption.bind Database.ofSnapshot?

def writeDatabase (db : Database) : Octets := Utf8.encode (Json.write .indented db.snapshot ++ "\n")

def addFile (place : DiskPlace) (content : Octets) (disk : Disk) : Disk :=
  match readDatabase content with
  | some db => { disk with databases := disk.databases ++ [(place, db)] }
  | none => { disk with files := disk.files ++ [(place, content)] }

/-- Adds what is at a place of the real disk; tells whether it is a directory. -/
def addPlace (place : DiskPlace) (disk : Disk) : IO (Bool × Disk) := do
  if disk.isDirectory place then return (true, disk)
  if disk.isFile place then return (false, disk)
  try
    let content ← IO.FS.readBinFile (fileName place)
    return (false, addFile place content.toList disk)
  catch
    | .inappropriateType .. =>
      return (true, { disk with directories := disk.directories ++ [place] })
    | _ => return (false, disk)

def addWay (way : DiskPlace) : List Text → Disk → IO Disk
  | [], disk => return disk
  | name :: names, disk => do
    let (isDirectory, disk) ← addPlace (way ++ [name]) disk
    if isDirectory then addWay (way ++ [name]) names disk else return disk

def addPath (path : Path) (disk : Disk) : IO Disk :=
  addWay [] (path.placeFrom disk.workingDirectory) disk

def databasePath? (s : Surroundings) (disk : Disk) : Option Path :=
  match s.databaseAddress none disk with
  | .ok (address, _) =>
    match Location.read address with
    | .ok (.file path _) => some (Path.read path)
    | _ => none
  | .error _ => none

def writeBack (before after : Disk) : IO Unit := do
  for place in after.directories do
    unless before.directories.contains place do IO.FS.createDirAll (fileName place)
  for (place, content) in after.files do
    unless before.files.lookup place = some content do
      IO.FS.writeBinFile (fileName place) content.toByteArray
  for (place, db) in after.databases do
    unless before.databases.lookup place = some db do
      IO.FS.writeBinFile (fileName place) (writeDatabase db).toByteArray

def printNotices (verbose : Bool) (told : List Occurrence) : IO Unit := do
  let least := if verbose then Level.debug.number else Level.info.number
  for notice in Occurrence.notices told do
    if least ≤ notice.level.number then
      let line := notice.level.name ++ " [" ++ notice.channel.name ++ "] " ++ notice.message
      IO.eprintln line.toStringLossy
      if let some cause := notice.cause then IO.eprintln cause.message.toStringLossy

def run (arguments : List String) : IO UInt32 := do
  let words := arguments.map Text.ofString
  let mut environment : Environment := []
  for name in settingNames do
    if let some value ← IO.getEnv name then
      environment := environment ++ [((name : Text), (value : Text))]
  let surroundings : Surroundings := { environment }
  let directory : Text := (← IO.currentDir).toString
  let mut disk : Disk := { workingDirectory := (Path.read directory).names }
  for word in words do
    disk ← addPath (Path.read word) disk
  if let some path := databasePath? surroundings disk then
    disk ← addPath path disk
  let host : Host := { surroundings, databases := { adapter := {}, disk } }
  let (answer, desk) := CommandLine.run words { content := host }
  printNotices (CommandLine.isVerbose words) desk.journal
  writeBack disk desk.content.disk
  match answer with
  | .ok status =>
    if desk.journal.isEmpty && status.isSome then IO.eprintln usage
    return UInt32.ofNat (status.getD 0)
  | .error _ => return 1

end ParticipantRegistry.Executable

def main (arguments : List String) : IO UInt32 := ParticipantRegistry.Executable.run arguments
