import ParticipantRegistry.Text.Basic

/-!
# Blank text

Two notions of blank are in use. `CodePoint.isWhiteSpace` is the Unicode property White_Space, which
documents are trimmed by; `CodePoint.isBlank` adds the four information separators U+001C to U+001F
and decides which texts a record may not hold.
-/

namespace ParticipantRegistry

namespace CodePoint

def isWhiteSpace (c : CodePoint) : Bool :=
  (0x09 ≤ c.val && c.val ≤ 0x0D) || c.val == 0x20 || c.val == 0x85 || c.val == 0xA0 ||
    c.val == 0x1680 || (0x2000 ≤ c.val && c.val ≤ 0x200A) || c.val == 0x2028 || c.val == 0x2029 ||
    c.val == 0x202F || c.val == 0x205F || c.val == 0x3000

def isBlank (c : CodePoint) : Bool :=
  c.isWhiteSpace || (0x1C ≤ c.val && c.val ≤ 0x1F)

end CodePoint

namespace Text

/-- Without the code points of a class at both ends. -/
def trimBy (p : CodePoint → Bool) (t : Text) : Text :=
  ((t.dropWhile p).reverse.dropWhile p).reverse

def trim (t : Text) : Text := t.trimBy CodePoint.isWhiteSpace

def strip (t : Text) : Text := t.trimBy CodePoint.isBlank

def isBlank (t : Text) : Bool := t.all CodePoint.isBlank

end Text

end ParticipantRegistry
