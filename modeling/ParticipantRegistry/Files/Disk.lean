import ParticipantRegistry.Files.Name
import ParticipantRegistry.Files.Path
import ParticipantRegistry.Relational.Database
import ParticipantRegistry.Text.Utf8

/-!
# The disk

A disk holds directories, files and databases by their place, the list of names from the root on.
With a directory there are all directories above it. A path leads to a place through directories
only.
-/

namespace ParticipantRegistry

abbrev DiskPlace := List Text

structure Disk where
  /-- Where relative paths start. -/
  workingDirectory : DiskPlace
  directories : List DiskPlace := []
  files : List (DiskPlace × Octets) := []
  databases : List (DiskPlace × Database) := []

namespace Disk

def isDirectory (disk : Disk) (place : DiskPlace) : Bool :=
  place.isPrefixOf disk.workingDirectory || disk.directories.any place.isPrefixOf

def isFile (disk : Disk) (place : DiskPlace) : Bool :=
  (disk.files.lookup place).isSome || (disk.databases.lookup place).isSome

def ensureDirectory (disk : Disk) (place : DiskPlace) : Except FileError Unit :=
  if disk.isDirectory place then .ok ()
  else if disk.isFile place then .error .notDirectory
  else .error .notFound

def locate (disk : Disk) (path : Path) : Except FileError DiskPlace := do
  FileName.checkPath path.toText
  let start := if path.isAbsolute then [] else disk.workingDirectory
  path.names.foldlM
    (fun place name => do
      disk.ensureDirectory place
      FileName.checkSize name
      return Path.enter place name)
    start

/-- The place that a path leads to by its names alone, whatever is on the way. -/
def resolve (disk : Disk) (path : Path) : Except FileError DiskPlace := do
  path.names.forM FileName.checkText
  return path.placeFrom disk.workingDirectory

/-- Whether a path leads to a place with a property. Only a path that is too long cannot be asked
about. -/
def leadsTo (disk : Disk) (path : Path) (holds : DiskPlace → Bool) : Except FileError Bool :=
  match disk.locate path with
  | .ok place => .ok (holds place)
  | .error .nameTooLong => .error .nameTooLong
  | .error _ => .ok false

def hasDirectory (disk : Disk) (path : Path) : Except FileError Bool :=
  disk.leadsTo path disk.isDirectory

def hasFile (disk : Disk) (path : Path) : Except FileError Bool := disk.leadsTo path disk.isFile

/-- What a database looks like as a file: no text. -/
def databaseContent : Octets := [0xFF]

def contentAt (disk : Disk) (path : Path) : Except FileError Octets := do
  let place ← disk.locate path
  if disk.isDirectory place then .error .isDirectory
  else
    match disk.files.lookup place with
    | some content => .ok content
    | none => if disk.isFile place then .ok databaseContent else .error .notFound

def setAt {α : Type} (place : DiskPlace) (value : α) (entries : List (DiskPlace × α)) :
    List (DiskPlace × α) :=
  entries.filter (·.1 ≠ place) ++ [(place, value)]

def putFile (disk : Disk) (path : Path) (content : Octets) : Except FileError Disk := do
  let place ← disk.locate path
  if disk.isDirectory place then .error .isDirectory
  else
    .ok { disk with
      files := setAt place content disk.files
      databases := disk.databases.filter (·.1 ≠ place) }

def makeDirectory (disk : Disk) (path : Path) : Except FileError Disk := do
  let place ← disk.locate path
  if disk.isDirectory place || disk.isFile place then .error .alreadyThere
  else .ok { disk with directories := disk.directories ++ [place] }

/-- Fails unless a directory can be made below a place that leads there, with all directories in
between. -/
def checkWay (disk : Disk) (way : DiskPlace) : List Text → Except FileError Unit
  | [] => if disk.isFile way then .error .alreadyThere else .ok ()
  | name :: names => do
    if disk.isFile way then throw .notDirectory
    FileName.checkSize name
    checkWay disk (way ++ [name]) names

def makeDirectories (disk : Disk) (place : DiskPlace) : Except FileError Disk := do
  FileName.checkPath (Path.ofPlace place).toText
  if disk.isDirectory place then return disk
  disk.checkWay [] place
  return { disk with directories := disk.directories ++ [place] }

/-- The database at a place. A file that holds nothing, or a single octet, is an empty one. -/
def databaseAt (disk : Disk) (place : DiskPlace) : Except DatabaseError Database :=
  match disk.databases.lookup place, disk.files.lookup place with
  | some db, _ => .ok db
  | none, some (_ :: _ :: _) => .error .notADatabase
  | none, _ => .ok {}

def takesFile (disk : Disk) (place : DiskPlace) : Bool :=
  !disk.isDirectory place && disk.isDirectory place.dropLast

def saveDatabase (disk : Disk) (place : DiskPlace) (db : Database) : Disk :=
  { disk with
    files := disk.files.filter (·.1 ≠ place)
    databases := setAt place db disk.databases }

end Disk

end ParticipantRegistry
