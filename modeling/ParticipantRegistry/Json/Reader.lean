import ParticipantRegistry.Json.Basic

/-!
# Reading JSON

`Json.read` reads one value with blanks around it. Beyond the standard grammar it knows `NaN`,
`Infinity` and `-Infinity`, joins two escaped surrogates to one code point and leaves other
surrogates alone. A number without fraction and exponent is an integer of at most 4300 digits.

Values may be nested in one another up to a limit of whoever reads them (`nestingLimit`).

Each part reads from the front of a text and returns the rest, so a fault is placed by the text that
was left when it was found.
-/

namespace ParticipantRegistry.Json

inductive Fault where
  | byteOrderMark
  | value
  | memberName
  | colon
  | comma
  | end
  | closingQuote
  | controlCharacter
  | escape
  | unicodeEscape
  deriving DecidableEq

def Fault.message : Fault → Text
  | .byteOrderMark => "Unexpected UTF-8 BOM (decode using utf-8-sig)"
  | .value => "Expecting value"
  | .memberName => "Expecting property name enclosed in double quotes"
  | .colon => "Expecting ':' delimiter"
  | .comma => "Expecting ',' delimiter"
  | .end => "Extra data"
  | .closingQuote => "Unterminated string starting at"
  | .controlCharacter => "Invalid control character at"
  | .escape => "Invalid \\escape"
  | .unicodeEscape => "Invalid \\uXXXX escape"

/-- Why reading stopped: a fault with the text left at its place, an integer too long to read, or an
array or object too deep inside others. -/
inductive Stop where
  | fault (what : Fault) (rest : Text)
  | tooManyDigits (count : Nat)
  | tooDeep
  deriving DecidableEq

inductive ReadError where
  | malformed (what : Fault) (line column offset : Nat)
  | tooManyDigits (count : Nat)
  | tooDeep
  deriving DecidableEq

def ReadError.message : ReadError → Text
  | .malformed what line column offset =>
    what.message ++ ": line " ++ Text.ofNat line ++ " column " ++ Text.ofNat column ++ " (char " ++
      Text.ofNat offset ++ ")"
  | .tooManyDigits count =>
    "Exceeds the limit (4300 digits) for integer string conversion: value has " ++
      Text.ofNat count ++ " digits; use sys.set_int_max_str_digits() to increase the limit"
  | .tooDeep => "arrays and objects are nested too deep"

def Stop.inText (t : Text) : Stop → ReadError
  | .fault what rest =>
    let offset := t.length - rest.length
    .malformed what (t.lineAt offset) (t.columnAt offset) offset
  | .tooManyDigits count => .tooManyDigits count
  | .tooDeep => .tooDeep

abbrev Reading (α : Type) := Except Stop (α × Text)

def isBlank (c : CodePoint) : Bool :=
  c = (' ' : CodePoint) || c = ('\t' : CodePoint) || c = ('\n' : CodePoint) || c = ('\r' : CodePoint)

def skipBlanks (s : Text) : Text := s.dropWhile isBlank

def unescape? (c : CodePoint) : Option CodePoint :=
  if c = '"' then some '"'
  else if c = '\\' then some '\\'
  else if c = '/' then some '/'
  else if c = 'b' then some (.ofNat 8)
  else if c = 'f' then some (.ofNat 12)
  else if c = 'n' then some '\n'
  else if c = 'r' then some '\r'
  else if c = 't' then some '\t'
  else none

/-- One code point of a string as it is written: as itself, or by its number. -/
inductive Piece where
  | plain (c : CodePoint)
  | numbered (c : CodePoint)
  deriving DecidableEq

def ofHex? (a b c d : CodePoint) : Option CodePoint :=
  match a.hexValue?, b.hexValue?, c.hexValue?, d.hexValue? with
  | some a, some b, some c, some d => some (.ofNat (4096 * a + 256 * b + 16 * c + d))
  | _, _, _, _ => none

/-- The pieces up to the closing quote; `opening` is the text from the opening quote on. -/
def readPieces (opening : Text) : Text → Reading (List Piece)
  | [] => .error (.fault .closingQuote opening)
  | c :: s =>
    if c = '"' then .ok ([], s)
    else if c.val < 0x20 then .error (.fault .controlCharacter (c :: s))
    else if c ≠ '\\' then (readPieces opening s).map fun (ps, rest) => (.plain c :: ps, rest)
    else
      match s with
      | [] => .error (.fault .closingQuote opening)
      | e :: s =>
        if e ≠ 'u' then
          match unescape? e with
          | none => .error (.fault .escape (c :: e :: s))
          | some d => (readPieces opening s).map fun (ps, rest) => (.plain d :: ps, rest)
        else
          match s with
          | h₁ :: h₂ :: h₃ :: h₄ :: n :: s =>
            match ofHex? h₁ h₂ h₃ h₄ with
            | none => .error (.fault .unicodeEscape (e :: h₁ :: h₂ :: h₃ :: h₄ :: n :: s))
            | some d =>
              (readPieces opening (n :: s)).map fun (ps, rest) => (.numbered d :: ps, rest)
          | s => .error (.fault .unicodeEscape (e :: s))

def joinSurrogates (high low : CodePoint) : CodePoint :=
  .ofNat (0x10000 + (high.val - 0xD800) * 0x400 + (low.val - 0xDC00))

/-- Joins surrogate pairs that are both written by number. -/
def joinPieces : List Piece → Text
  | [] => []
  | .plain c :: ps => c :: joinPieces ps
  | .numbered c :: ps =>
    match ps with
    | .numbered d :: qs =>
      if c.isHighSurrogate && d.isLowSurrogate then joinSurrogates c d :: joinPieces qs
      else c :: joinPieces (.numbered d :: qs)
    | ps => c :: joinPieces ps

def readString (s : Text) : Reading Text :=
  (readPieces ('"' :: s) s).map fun (ps, rest) => (joinPieces ps, rest)

def takeDigits (s : Text) : Text := s.takeWhile CodePoint.isDigit

def dropDigits (s : Text) : Text := s.dropWhile CodePoint.isDigit

/-- Digits after a point; without a digit there is no fraction. -/
def splitFraction : Text → Text × Text
  | c :: s => if c = '.' ∧ takeDigits s ≠ [] then (takeDigits s, dropDigits s) else ([], c :: s)
  | [] => ([], [])

/-- An exponent, if the text begins with a whole one. -/
def splitExponent : Text → Option Int × Text
  | c :: s =>
    if c = 'e' ∨ c = 'E' then
      match s with
      | d :: t =>
        if d = '-' ∨ d = '+' then
          if takeDigits t = [] then (none, c :: d :: t)
          else
            let n : Int := Text.toNat (takeDigits t)
            (some (if d = '-' then -n else n), dropDigits t)
        else if takeDigits s = [] then (none, c :: s)
        else (some (Text.toNat (takeDigits s)), dropDigits s)
      | [] => (none, [c])
    else (none, c :: s)
  | [] => (none, [])

def digitLimit : Nat := 4300

/-- Digits before the point: a single zero, or digits that begin with another one. -/
def splitWhole : Text → Option (Text × Text)
  | c :: s =>
    if c = '0' then some ([c], s)
    else if c.isDigit then some (c :: takeDigits s, dropDigits s)
    else none
  | [] => none

/-- Reads a number whose sign, if any, has been taken off `s`; `start` begins with the sign. -/
def readUnsigned (negative : Bool) (start s : Text) : Reading Json :=
  match splitWhole s with
  | none => .error (.fault .value start)
  | some (whole, s) =>
    match splitFraction s with
    | (fraction, s) =>
      match splitExponent s with
      | (none, rest) =>
        if fraction = [] then
          if digitLimit < whole.length then .error (.tooManyDigits whole.length)
          else
            let n : Int := Text.toNat whole
            .ok (.int (if negative then -n else n), rest)
        else
          .ok (.float (.ofDecimal negative ⟨Text.toNat (whole ++ fraction), -fraction.length⟩), rest)
      | (some exponent, rest) =>
        .ok
          (.float
            (.ofDecimal negative ⟨Text.toNat (whole ++ fraction), exponent - fraction.length⟩),
            rest)

def readNumber (s : Text) : Reading Json :=
  match s with
  | c :: t => if c = '-' then readUnsigned true s t else readUnsigned false s s
  | [] => .error (.fault .value s)

def literals : List (Text × Json) :=
  [("null", .null), ("true", .bool true), ("false", .bool false), ("NaN", .float .nan),
    ("Infinity", .float (.infinite false)), ("-Infinity", .float (.infinite true))]

def readLiteral? (s : Text) : Option (Json × Text) :=
  literals.findSome? fun (name, value) => (Text.dropPrefix? name s).map (value, ·)

/-- How many arrays and objects may be open at once. It stands for the room on the stack of the
interpreter that reads, which is no property of the format: an interpreter with more room reads deeper
values (about 9997 levels in later versions of the one that is described here). The theory rests on
there being a limit, not on the number. -/
def nestingLimit : Nat := 988

mutual

/-- Reads a value that may hold `room` arrays and objects inside one another. The text gets shorter
with every second call inside, so `fuel` above twice its length is enough. -/
def readValue (room : Nat) : Nat → Text → Reading Json
  | 0, s => .error (.fault .value s)
  | _ + 1, [] => .error (.fault .value [])
  | fuel + 1, c :: s =>
    if c = '"' then (readString s).map fun (t, rest) => (.string t, rest)
    else if c = '[' then
      if room = 0 then .error .tooDeep
      else
        match skipBlanks s with
        | [] => .error (.fault .value [])
        | d :: t =>
          if d = ']' then .ok (.array [], t)
          else (readItems (room - 1) fuel (d :: t)).map fun (items, rest) => (.array items, rest)
    else if c = '{' then
      if room = 0 then .error .tooDeep
      else
        match skipBlanks s with
        | [] => .error (.fault .memberName [])
        | d :: t =>
          if d = '}' then .ok (.object [], t)
          else (readMembers (room - 1) fuel (d :: t)).map fun (ms, rest) => (ofMembers ms, rest)
    else
      match readLiteral? (c :: s) with
      | some found => .ok found
      | none => readNumber (c :: s)

def readItems (room : Nat) : Nat → Text → Reading (List Json)
  | 0, s => .error (.fault .value s)
  | fuel + 1, s =>
    match readValue room fuel s with
    | .error stop => .error stop
    | .ok (item, rest) =>
      match skipBlanks rest with
      | [] => .error (.fault .comma [])
      | c :: t =>
        if c = ']' then .ok ([item], t)
        else if c = ',' then
          (readItems room fuel (skipBlanks t)).map fun (items, rest) => (item :: items, rest)
        else .error (.fault .comma (c :: t))

def readMembers (room : Nat) : Nat → Text → Reading Members
  | 0, s => .error (.fault .memberName s)
  | _ + 1, [] => .error (.fault .memberName [])
  | fuel + 1, q :: s =>
    if q ≠ '"' then .error (.fault .memberName (q :: s))
    else
      match readString s with
      | .error stop => .error stop
      | .ok (name, rest) =>
        match skipBlanks rest with
        | [] => .error (.fault .colon [])
        | c :: t =>
          if c ≠ ':' then .error (.fault .colon (c :: t))
          else
            match readValue room fuel (skipBlanks t) with
            | .error stop => .error stop
            | .ok (value, rest) =>
              match skipBlanks rest with
              | [] => .error (.fault .comma [])
              | d :: u =>
                if d = '}' then .ok ([(name, value)], u)
                else if d = ',' then
                  (readMembers room fuel (skipBlanks u)).map fun (ms, rest) =>
                    ((name, value) :: ms, rest)
                else .error (.fault .comma (d :: u))

end

def readText (s : Text) : Except Stop Json :=
  if s.head? = some (.ofNat 0xFEFF) then .error (.fault .byteOrderMark s)
  else
    match readValue nestingLimit (2 * s.length + 1) (skipBlanks s) with
    | .error stop => .error stop
    | .ok (value, rest) =>
      match skipBlanks rest with
      | [] => .ok value
      | c :: t => .error (.fault .end (c :: t))

def read (s : Text) : Except ReadError Json := (readText s).mapError (Stop.inText s)

end ParticipantRegistry.Json
