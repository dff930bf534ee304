/-!
# Text

A text is a list of Unicode code points. Documents may hold a surrogate that stands alone, so a
code point is any number below 0x110000 and not only a character; `Text.isUnicode` singles out the
texts that have an encoded form.

Texts are ordered by their code points (`Text.le`), and numbers are written in decimal
(`Text.ofNat`, `Text.ofInt`). Text that is read from a file has its line ends unified to a line feed. A
position in a text is told by line and column, both counted from one.
-/

namespace ParticipantRegistry

abbrev CodePoint := Fin 0x110000

namespace CodePoint

def ofChar (c : Char) : CodePoint :=
  ⟨c.toNat, by
    have h : c.val.toNat.isValidChar := c.valid
    have e : c.toNat = c.val.toNat := rfl
    simp only [Nat.isValidChar] at h
    omega⟩

instance : Coe Char CodePoint := ⟨ofChar⟩

/-- The code point with this number; numbers out of range give code point 0. -/
def ofNat (n : Nat) : CodePoint :=
  if h : n < 0x110000 then ⟨n, h⟩ else ⟨0, by decide⟩

theorem val_ofNat {n : Nat} (h : n < 0x110000) : (ofNat n).val = n := by
  simp [ofNat, h]

def isHighSurrogate (c : CodePoint) : Bool := 0xD800 ≤ c.val && c.val ≤ 0xDBFF

def isLowSurrogate (c : CodePoint) : Bool := 0xDC00 ≤ c.val && c.val ≤ 0xDFFF

def isSurrogate (c : CodePoint) : Bool := 0xD800 ≤ c.val && c.val ≤ 0xDFFF

def isDigit (c : CodePoint) : Bool := 0x30 ≤ c.val && c.val ≤ 0x39

/-- Line feed, vertical tab, form feed, carriage return, the three information separators above the
unit separator, next line, and the separators of lines and paragraphs. -/
def isLineSeparator (c : CodePoint) : Bool :=
  (0x0A ≤ c.val && c.val ≤ 0x0D) || (0x1C ≤ c.val && c.val ≤ 0x1E) || c.val == 0x85 ||
    c.val == 0x2028 || c.val == 0x2029

def digitValue (c : CodePoint) : Nat := c.val - 0x30

def ofDigit (d : Nat) : CodePoint := ofNat (0x30 + d)

theorem isDigit_ofDigit {d : Nat} (h : d < 10) : (ofDigit d).isDigit = true := by
  simp [ofDigit, isDigit, val_ofNat (n := 0x30 + d) (by omega)]
  omega

theorem digitValue_ofDigit {d : Nat} (h : d < 10) : (ofDigit d).digitValue = d := by
  simp [ofDigit, digitValue, val_ofNat (n := 0x30 + d) (by omega)]

def hexValue? (c : CodePoint) : Option Nat :=
  if 0x30 ≤ c.val ∧ c.val ≤ 0x39 then some (c.val - 0x30)
  else if 0x41 ≤ c.val ∧ c.val ≤ 0x46 then some (c.val - 0x37)
  else if 0x61 ≤ c.val ∧ c.val ≤ 0x66 then some (c.val - 0x57)
  else none

def ofHexDigit (d : Nat) : CodePoint :=
  if d < 10 then ofNat (0x30 + d) else ofNat (0x57 + d)

theorem hexValue?_ofHexDigit : ∀ d < 16, (ofHexDigit d).hexValue? = some d := by
  decide

end CodePoint

abbrev Text := List CodePoint

namespace Text

def ofString (s : String) : Text := s.toList.map CodePoint.ofChar

instance : Coe String Text := ⟨ofString⟩

/-- The text as a string, where a surrogate has no place of its own. -/
def toStringLossy (t : Text) : String := String.ofList (t.map fun c => Char.ofNat c.val)

/-- Whether the text has an encoded form: no surrogate stands in it. -/
def isUnicode (t : Text) : Bool := t.all fun c => !c.isSurrogate

def le : Text → Text → Bool
  | [], _ => true
  | _ :: _, [] => false
  | a :: s, b :: t => if a < b then true else if a = b then le s t else false

theorem le_total (s t : Text) : (le s t || le t s) = true := by
  induction s generalizing t with
  | nil => simp [le]
  | cons a s ih =>
    cases t with
    | nil => simp [le]
    | cons b t =>
      simp only [le]
      rcases Nat.lt_trichotomy a.val b.val with h | h | h
      · have hab : a < b := h
        simp [hab]
      · have he : a = b := Fin.ext h
        subst he
        simpa using ih t
      · have hba : b < a := h
        simp [hba]

theorem le_trans (s t u : Text) (hst : le s t = true) (htu : le t u = true) : le s u = true := by
  induction s generalizing t u with
  | nil => rfl
  | cons a s ih =>
    cases t with
    | nil => simp [le] at hst
    | cons b t =>
      cases u with
      | nil => simp [le] at htu
      | cons c u =>
        simp only [le, Fin.lt_def, Fin.ext_iff] at hst htu ⊢
        split at hst
        · split at htu
          · rw [if_pos (by omega)]
          · split at htu
            · rw [if_pos (by omega)]
            · simp at htu
        · split at hst
          · split at htu
            · rw [if_pos (by omega)]
            · split at htu
              · rw [if_neg (by omega), if_pos (by omega)]
                exact ih t u hst htu
              · simp at htu
          · simp at hst

theorem le_antisymm (s t : Text) (hst : le s t = true) (hts : le t s = true) : s = t := by
  induction s generalizing t with
  | nil => cases t <;> simp_all [le]
  | cons a s ih =>
    cases t with
    | nil => simp [le] at hst
    | cons b t =>
      simp only [le, Fin.lt_def, Fin.ext_iff] at hst hts
      split at hst
      · rw [if_neg (by omega), if_neg (by omega)] at hts
        simp at hts
      · split at hst
        · rename_i he
          rw [if_neg (by omega), if_pos he.symm] at hts
          rw [Fin.ext he, ih t hst hts]
        · simp at hst

def sort (ts : List Text) : List Text := ts.mergeSort le

def ofNat (n : Nat) : Text :=
  if n < 10 then [CodePoint.ofDigit n] else ofNat (n / 10) ++ [CodePoint.ofDigit (n % 10)]

def ofInt (i : Int) : Text :=
  if i < 0 then ('-' : CodePoint) :: ofNat i.natAbs else ofNat i.natAbs

def toNat (digits : Text) : Nat := digits.foldl (fun n c => 10 * n + c.digitValue) 0

theorem toNat_append_digit (s : Text) (c : CodePoint) :
    toNat (s ++ [c]) = 10 * toNat s + c.digitValue := by
  simp [toNat]

theorem toNat_ofNat (n : Nat) : toNat (ofNat n) = n := by
  fun_induction ofNat n with
  | case1 n h => simp [toNat, CodePoint.digitValue_ofDigit h]
  | case2 n h ih =>
    rw [toNat_append_digit, ih, CodePoint.digitValue_ofDigit (by omega)]
    omega

theorem isDigit_of_mem_ofNat (n : Nat) : ∀ c ∈ ofNat n, c.isDigit = true := by
  fun_induction ofNat n with
  | case1 n h => simpa using CodePoint.isDigit_ofDigit h
  | case2 n h ih =>
    intro c hc
    rcases List.mem_append.1 hc with hc | hc
    · exact ih c hc
    · rw [List.mem_singleton.1 hc]
      exact CodePoint.isDigit_ofDigit (by omega)

theorem ofNat_ne_nil (n : Nat) : ofNat n ≠ [] := by
  fun_induction ofNat n <;> simp

def hexDigits : Nat → Nat → Text
  | 0, _ => []
  | width + 1, n => hexDigits width (n / 16) ++ [CodePoint.ofHexDigit (n % 16)]

def padDecimal (width n : Nat) : Text :=
  List.replicate (width - (ofNat n).length) ('0' : CodePoint) ++ ofNat n

def isDigits (t : Text) : Bool := t.all CodePoint.isDigit

def firstLine (t : Text) : Text := t.takeWhile fun c => !c.isLineSeparator

def asciiLower (t : Text) : Text :=
  t.map fun c => if 0x41 ≤ c.val ∧ c.val ≤ 0x5A then CodePoint.ofNat (c.val + 0x20) else c

def splitOn (sep : CodePoint) : Text → List Text
  | [] => [[]]
  | c :: t =>
    if c = sep then [] :: splitOn sep t
    else
      match splitOn sep t with
      | [] => [[c]]
      | part :: parts => (c :: part) :: parts

def dropPrefix? : Text → Text → Option Text
  | [], t => some t
  | _ :: _, [] => none
  | a :: s, b :: t => if a = b then dropPrefix? s t else none

/-- A carriage return, with or without a line feed after it, becomes one line feed. -/
def unifyLines : Text → Text
  | [] => []
  | [c] => if c = '\r' then ['\n'] else [c]
  | c :: d :: t =>
    if c = '\r' then
      if d = '\n' then '\n' :: unifyLines t else '\n' :: unifyLines (d :: t)
    else c :: unifyLines (d :: t)

def lineAt (t : Text) (offset : Nat) : Nat := (t.take offset).count ('\n' : CodePoint) + 1

def columnAt (t : Text) (offset : Nat) : Nat :=
  ((t.take offset).reverse.takeWhile (· ≠ ('\n' : CodePoint))).length + 1

end Text

end ParticipantRegistry
