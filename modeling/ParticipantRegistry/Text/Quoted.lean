import ParticipantRegistry.Text.Printable

/-!
# Quoted text

Messages show a text between single quotes, or between double quotes when it holds a single quote
and no double one. Inside, the quote and the backslash are escaped with a backslash, tab, line feed
and carriage return by letter, and every other unprintable code point by its number in two, four or
eight hexadecimal digits.
-/

namespace ParticipantRegistry

namespace CodePoint

def quoted (quote c : CodePoint) : Text :=
  if c = quote ∨ c = '\\' then ['\\', c]
  else if c = '\t' then ['\\', 't']
  else if c = '\n' then ['\\', 'n']
  else if c = '\r' then ['\\', 'r']
  else if c.isPrintable then [c]
  else if c.val ≤ 0xFF then "\\x" ++ Text.hexDigits 2 c.val
  else if c.val ≤ 0xFFFF then "\\u" ++ Text.hexDigits 4 c.val
  else "\\U" ++ Text.hexDigits 8 c.val

end CodePoint

namespace Text

def quoteMark (t : Text) : CodePoint :=
  if t.contains ('\'' : CodePoint) && !t.contains ('"' : CodePoint) then '"' else '\''

def quoted (t : Text) : Text :=
  [t.quoteMark] ++ t.flatMap (CodePoint.quoted t.quoteMark) ++ [t.quoteMark]

def quotedTuple (ts : List Text) : Text :=
  "(" ++ List.intercalate ", " (ts.map quoted) ++ ")"

end Text

end ParticipantRegistry
