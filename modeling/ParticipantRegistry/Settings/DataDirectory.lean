import ParticipantRegistry.Files.Disk
import ParticipantRegistry.Settings.Environment

/-!
# The data directory

The database lies in a data directory unless the environment names another one. A path may begin
with a tilde for a home directory. The directory is made when the place of the database is needed.
-/

namespace ParticipantRegistry

structure NoHome where
  deriving DecidableEq

def NoHome.message (_ : NoHome) : Text := "Could not determine home directory."

/-- What settings are read from: variables, and the home directories of accounts. -/
structure Surroundings where
  environment : Environment := []
  ownHome : Option Text := none
  homes : List (Text × Text) := []

structure DataDirectory where
  directory : Path
  filename : Text := "smpexchange.db"
  deriving DecidableEq

inductive DirectoryError where
  | noHome (error : NoHome)
  | file (error : FileError)
  deriving DecidableEq

namespace Surroundings

def homeText? (s : Surroundings) (name : Text) : Option Text :=
  let home :=
    if name = "~" then (s.environment.value? "HOME").or s.ownHome else s.homes.lookup (name.drop 1)
  home.map fun t =>
    let t := (t.reverse.dropWhile (· = ('/' : CodePoint))).reverse
    if t = [] then "/" else t

def startsWithTilde (t : Text) : Bool := t.head? = some ('~' : CodePoint)

/-- Replaces a leading tilde by the home directory, which may not begin with one itself. -/
def expandHome (s : Surroundings) (p : Path) : Except DirectoryError Path :=
  match p.isAbsolute, p.names with
  | false, name :: names =>
    if startsWithTilde name then do
      (FileName.checkText name).mapError .file
      match s.homeText? name with
      | some home =>
        if startsWithTilde home then throw (.noHome {})
        return (Path.read home).below ⟨[], names⟩
      | none => throw (.noHome {})
    else .ok p
  | _, _ => .ok p

def homeDirectory (s : Surroundings) : Except DirectoryError Path := s.expandHome (Path.read "~")

def resolve (s : Surroundings) (p : Path) (disk : Disk) : Except DirectoryError DiskPlace := do
  (disk.resolve (← s.expandHome p)).mapError .file

end Surroundings

namespace DataDirectory

def place (d : DataDirectory) (s : Surroundings) (disk : Disk) :
    Except DirectoryError DiskPlace :=
  s.resolve d.directory disk

def ensure (d : DataDirectory) (s : Surroundings) (disk : Disk) :
    Except DirectoryError (DiskPlace × Disk) := do
  let place ← d.place s disk
  let disk ← (disk.makeDirectories place).mapError .file
  return (place, disk)

def databasePath (d : DataDirectory) (place : DiskPlace) : Path :=
  (Path.ofPlace place).below (Path.read d.filename)

def address (d : DataDirectory) (place : DiskPlace) : Text :=
  "sqlite+pysqlite:///" ++ (d.databasePath place).toText

end DataDirectory

namespace Surroundings

def defaultDirectory (s : Surroundings) (disk : Disk) : Except DirectoryError Path := do
  let base ←
    match s.environment.given? "XDG_DATA_HOME" with
    | some base => .ok (Path.read base)
    | none => do pure ((← s.homeDirectory).below (Path.read ".local/share"))
  return .ofPlace (← s.resolve (base.below (Path.read "smpexchange")) disk)

def dataDirectory (s : Surroundings) (disk : Disk) : Except DirectoryError DataDirectory := do
  match s.environment.given? "SMPEXCHANGE_DATA_DIR" with
  | some directory => return { directory := Path.read directory }
  | none => return { directory := ← s.defaultDirectory disk }

/-- The address of the database: the one that is set, or that in a data directory, which is made. -/
def databaseAddress (s : Surroundings) (chosen : Option DataDirectory) (disk : Disk) :
    Except DirectoryError (Text × Disk) := do
  match s.environment.given? "DATABASE_URI" with
  | some address => return (address, disk)
  | none =>
    let d ←
      match chosen with
      | some d => pure d
      | none => s.dataDirectory disk
    let (place, disk) ← d.ensure s disk
    return (d.address place, disk)

end Surroundings

end ParticipantRegistry
