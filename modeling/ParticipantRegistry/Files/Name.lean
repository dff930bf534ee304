import ParticipantRegistry.Text.Basic

/-!
# Names of files

The disk takes names in octets. A text has an encoded form as a name unless it holds a surrogate that
does not stand for a single octet. The text may not hold a code point zero, and neither a name nor a
whole path may be too long.
-/

namespace ParticipantRegistry

inductive FileError where
  | notFound
  | isDirectory
  | notDirectory
  | alreadyThere
  | embeddedNul
  | notEncodable
  | nameTooLong
  deriving DecidableEq

def FileError.message : FileError → Text
  | .notFound => "No such file or directory"
  | .isDirectory => "Is a directory"
  | .notDirectory => "Not a directory"
  | .alreadyThere => "File exists"
  | .embeddedNul => "embedded null byte"
  | .notEncodable => "surrogates not allowed"
  | .nameTooLong => "File name too long"

namespace FileName

/-- Whether a surrogate stands for a single octet that is no text. -/
def isOctet (c : CodePoint) : Bool := 0xDC80 ≤ c.val && c.val ≤ 0xDCFF

def pointSize (c : CodePoint) : Nat :=
  if c.val < 0x80 ∨ isOctet c then 1
  else if c.val < 0x800 then 2
  else if c.val < 0x10000 then 3
  else 4

def size (t : Text) : Nat := t.foldl (fun n c => n + pointSize c) 0

def isEncodable (t : Text) : Bool := t.all fun c => !c.isSurrogate || isOctet c

def checkText (t : Text) : Except FileError Unit :=
  if !isEncodable t then .error .notEncodable
  else if t.contains (.ofNat 0 : CodePoint) then .error .embeddedNul
  else .ok ()

def longestName : Nat := 255

def longestPath : Nat := 4095

def checkSize (name : Text) : Except FileError Unit :=
  if longestName < size name then .error .nameTooLong else .ok ()

def checkPath (t : Text) : Except FileError Unit := do
  checkText t
  if longestPath < size t then .error .nameTooLong else .ok ()

end FileName

end ParticipantRegistry
