import ParticipantRegistry.Json.Basic
import ParticipantRegistry.Number.Shortest

/-!
# Writing JSON

A layout fixes what the grammar leaves open: whether items stand on lines of their own, and whether
code points beyond ASCII are written by number. Inside strings a quote and a backslash are always
escaped, and control characters below U+0020 are written by letter or by number.
-/

namespace ParticipantRegistry.Json

structure Layout where
  /-- The number of blanks per level for items on lines of their own; `none` keeps one line. -/
  indent : Option Nat
  asciiOnly : Bool

namespace Layout

def line : Layout := ⟨none, false⟩

def asciiLine : Layout := ⟨none, true⟩

def indented : Layout := ⟨some 2, false⟩

end Layout

def escapeLetter? (c : CodePoint) : Option CodePoint :=
  if c = '"' then some '"'
  else if c = '\\' then some '\\'
  else if c = '\n' then some 'n'
  else if c = '\r' then some 'r'
  else if c = '\t' then some 't'
  else if c.val = 8 then some 'b'
  else if c.val = 12 then some 'f'
  else none

def escapeNumber (n : Nat) : Text := "\\u" ++ Text.hexDigits 4 n

def writePoint (asciiOnly : Bool) (c : CodePoint) : Text :=
  match escapeLetter? c with
  | some letter => ['\\', letter]
  | none =>
    if c.val < 0x20 then escapeNumber c.val
    else if !asciiOnly || c.val < 0x7F then [c]
    else if c.val < 0x10000 then escapeNumber c.val
    else
      escapeNumber (0xD800 + (c.val - 0x10000) / 0x400) ++
        escapeNumber (0xDC00 + (c.val - 0x10000) % 0x400)

def writeString (asciiOnly : Bool) (t : Text) : Text :=
  "\"" ++ t.flatMap (writePoint asciiOnly) ++ "\""

def writeFloat (x : Binary64) : Text :=
  match x with
  | .nan => "NaN"
  | .infinite negative => if negative then "-Infinity" else "Infinity"
  | x => x.toText

/-- What stands between two items, and before the first and after the last one, at a level. -/
def lineBreak (layout : Layout) (level : Nat) : Text :=
  match layout.indent with
  | none => []
  | some width => ('\n' : CodePoint) :: List.replicate (width * level) (' ' : CodePoint)

def separator (layout : Layout) (level : Nat) : Text :=
  match layout.indent with
  | none => ", "
  | some _ => "," ++ lineBreak layout level

mutual

def writeAt (layout : Layout) (level : Nat) : Json → Text
  | .null => "null"
  | .bool b => if b then "true" else "false"
  | .int i => Text.ofInt i
  | .float x => writeFloat x
  | .string t => writeString layout.asciiOnly t
  | .array [] => "[]"
  | .array (item :: items) =>
    "[" ++ lineBreak layout (level + 1) ++ writeAt layout (level + 1) item ++
      writeItems layout (level + 1) items ++ lineBreak layout level ++ "]"
  | .object [] => "\x7b\x7d"
  | .object ((name, value) :: ms) =>
    "\x7b" ++ lineBreak layout (level + 1) ++ writeString layout.asciiOnly name ++ ": " ++
      writeAt layout (level + 1) value ++ writeMembers layout (level + 1) ms ++
      lineBreak layout level ++ "\x7d"

def writeItems (layout : Layout) (level : Nat) : List Json → Text
  | [] => []
  | item :: items =>
    separator layout level ++ writeAt layout level item ++ writeItems layout level items

def writeMembers (layout : Layout) (level : Nat) : Members → Text
  | [] => []
  | (name, value) :: ms =>
    separator layout level ++ writeString layout.asciiOnly name ++ ": " ++
      writeAt layout level value ++ writeMembers layout level ms

end

def write (layout : Layout) (value : Json) : Text := writeAt layout 0 value

end ParticipantRegistry.Json
