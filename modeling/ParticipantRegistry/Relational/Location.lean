import ParticipantRegistry.Text.Percent

/-!
# Where databases are kept

A database is kept in memory or in a file. `Location.ofName` reads a name of the form
`file:path?settings`, whose parts are percent encoded; `Location.ofPlainName` takes a name as it is.
-/

namespace ParticipantRegistry

structure Access where
  mayCreate : Bool := true
  readOnly : Bool := false
  deriving DecidableEq

inductive Location where
  | memory (readOnly : Bool)
  | file (path : Text) (access : Access)
  | unclear
  deriving DecidableEq

namespace Location

def isMemoryName (name : Text) : Bool := name = [] || name = ":memory:"

def ofPlainName (name : Text) : Location :=
  if isMemoryName name then .memory false else .file name {}

inductive Mode where
  | readOnly
  | existing
  | create
  | memory
  deriving DecidableEq

namespace Mode

def ofText? (t : Text) : Option Mode :=
  if t = "ro" then some .readOnly
  else if t = "rw" then some .existing
  else if t = "rwc" then some .create
  else if t = "memory" then some .memory
  else none

def rank : Mode → Nat
  | .readOnly => 0
  | .existing => 1
  | .create => 2
  | .memory => 3

/-- A mode may follow another that permits as much; what is kept in memory may always. -/
def follows (current next : Mode) : Bool := next = .memory || next.rank ≤ current.rank

end Mode

def lastMode? (current : Mode) : List Text → Option Mode
  | [] => some current
  | value :: values => do
    let next ← Mode.ofText? value
    if current.follows next then lastMode? next values else none

/-- The kinds of storage that a name may ask for; the last one keeps all files in memory. -/
def storageNames : List Text := ["unix", "unix-dotfile", "unix-excl", "unix-none", "memdb"]

/-- Whether a setting is on: it is a word that says so, or begins with a number whose last octet is not
zero. -/
def isOn (value : Text) : Bool :=
  let digits := value.takeWhile CodePoint.isDigit
  if digits = [] then [("on" : Text), "yes", "true"].contains value.asciiLower
  else Text.toNat digits < 0x80000000 && Text.toNat digits % 0x100 ≠ 0

/-- A part of a name, decoded. It ends before a code point zero. -/
def decodePart (t : Text) : Text := (Percent.decode t).takeWhile (· ≠ (.ofNat 0 : CodePoint))

/-- The settings of a name. One without an equals sign has a blank value, one without a name is left
out. -/
def readSettings (t : Text) : List (Text × Text) :=
  (Text.splitOn '&' t).filterMap fun part =>
    let start := part.takeWhile (· ≠ ('=' : CodePoint))
    let name := decodePart start
    if name = [] then none else some (name, decodePart (part.drop (start.length + 1)))

def ofSettings (path : Text) (settings : List (Text × Text)) : Location :=
  let valuesOf (name : Text) : List Text := (settings.filter (·.1 = name)).map (·.2)
  let storage := (valuesOf "vfs").getLastD "unix"
  let areShared := (valuesOf "cache").all fun value => value = "shared" || value = "private"
  match lastMode? .create (valuesOf "mode") with
  | none => .unclear
  | some mode =>
    let readOnly := mode = .readOnly
    let isFixed := ((valuesOf "immutable").head?.map isOn).getD false
    if !areShared || !storageNames.contains storage then .unclear
    else if isMemoryName path || mode = .memory then .memory readOnly
    else if storage = "memdb" then .memory (readOnly || isFixed)
    else .file path { mayCreate := mode = .create, readOnly := readOnly || isFixed }

/-- The part of a name after a host between two slashes and the next one; the host may be missing or
the own one. -/
def dropHost? (t : Text) : Option Text :=
  match Text.dropPrefix? "//" t with
  | none => some t
  | some rest =>
    let host : Text := rest.takeWhile (· ≠ ('/' : CodePoint))
    if host = [] ∨ host = "localhost" then some (rest.drop host.length) else none

/-- Where a name leads that may have settings of its own. What follows a number sign is left out. -/
def ofName (name : Text) : Location :=
  match Text.dropPrefix? "file:" name with
  | none => ofPlainName name
  | some rest =>
    match dropHost? rest with
    | none => .unclear
    | some rest =>
      let rest := rest.takeWhile (· ≠ ('#' : CodePoint))
      let path := rest.takeWhile (· ≠ ('?' : CodePoint))
      ofSettings (decodePart path) (readSettings (rest.drop (path.length + 1)))

end Location

end ParticipantRegistry
