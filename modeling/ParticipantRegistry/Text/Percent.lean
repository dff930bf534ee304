import ParticipantRegistry.Text.Utf8

/-!
# Percent encoding

In an address an octet may be written as a percent sign with two hexadecimal digits. Octets that are
no UTF-8 are replaced. A percent sign without two digits stands for itself, and so does every code
point beyond ASCII.
-/

namespace ParticipantRegistry.Percent

def octets : Text → Octets
  | a :: b :: c :: rest =>
    match b.hexValue?, c.hexValue? with
    | some high, some low =>
      if a = '%' then (16 * high + low).toUInt8 :: octets rest
      else a.val.toUInt8 :: octets (b :: c :: rest)
    | _, _ => a.val.toUInt8 :: octets (b :: c :: rest)
  | a :: rest => a.val.toUInt8 :: octets rest
  | [] => []

def decodeRun (run : Text) : Text → Text
  | [] => Utf8.decodeReplacing 0 0 0 0 (octets run.reverse)
  | c :: t =>
    if c.val < 0x80 then decodeRun (c :: run) t
    else Utf8.decodeReplacing 0 0 0 0 (octets run.reverse) ++ c :: decodeRun [] t

def decode (t : Text) : Text := decodeRun [] t

/-- The names and values of a query, in order; what has no value is left out. A plus sign stands for
a blank. -/
def query (t : Text) : List (Text × Text) :=
  let blanks (t : Text) : Text := t.map fun c : CodePoint => if c = '+' then ' ' else c
  (Text.splitOn '&' t).filterMap fun part =>
    let name := part.takeWhile (· ≠ ('=' : CodePoint))
    let value := part.drop (name.length + 1)
    if value = [] then none else some (decode (blanks name), decode (blanks value))

end ParticipantRegistry.Percent
