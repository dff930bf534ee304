import Mathlib.Algebra.Group.Nat.Defs
import Mathlib.Tactic.SplitIfs
import ParticipantRegistry.Calendar.DocumentDate
import ParticipantRegistry.Calendar.IsoDate
import ParticipantRegistry.Proofs.Text.Digits
import ParticipantRegistry.Proofs.Text.Encoding

/-!
# Dates by number and by text

A date is found again from the number of its day, and it is read back from the text that is written for
it, by the reader of documents as well as by that of stored records.
-/

namespace ParticipantRegistry

namespace Calendar

theorem daysBeforeYear_eq (year : Nat) :
    daysBeforeYear year = 365 * ((year : Int) - 1) + ((year : Int) - 1) / 4 -
      ((year : Int) - 1) / 100 + ((year : Int) - 1) / 400 := by
  simp only [daysBeforeYear, Int.fdiv_eq_ediv_of_nonneg _ (by decide : (0 : Int) ≤ 4),
    Int.fdiv_eq_ediv_of_nonneg _ (by decide : (0 : Int) ≤ 100),
    Int.fdiv_eq_ediv_of_nonneg _ (by decide : (0 : Int) ≤ 400)]

/-- The first guess is at most one year off. -/
theorem yearOf_guess {year : Nat} {number : Int} (h : daysBeforeYear year < number)
    (h' : number ≤ daysBeforeYear (year + 1)) :
    (year : Int) - 1 ≤ (number + 365) * 400 / 146097 ∧
      (number + 365) * 400 / 146097 ≤ (year : Int) + 1 := by
  rw [daysBeforeYear_eq] at h h'
  push_cast at h'
  omega

theorem yearOf_eq {year : Nat} (hy : 1 ≤ year) {number : Int} (h : daysBeforeYear year < number)
    (h' : number ≤ daysBeforeYear (year + 1)) : yearOf number = year := by
  obtain ⟨hlow, hhigh⟩ := yearOf_guess h h'
  obtain ⟨guess, hguess⟩ : ∃ guess : Nat, ((number + 365) * 400 / 146097).toNat = guess := ⟨_, rfl⟩
  have hcases : guess + 1 = year ∨ guess = year ∨ guess = year + 1 := by omega
  rw [yearOf, hguess]
  rcases hcases with rfl | rfl | rfl
  · have hearlier : daysBeforeYear guess ≤ daysBeforeYear (guess + 1) := by
      rw [daysBeforeYear_eq, daysBeforeYear_eq]
      omega
    rw [if_neg (by omega), if_pos h]
  · rw [if_neg (by omega), if_neg (by omega)]
  · rw [if_pos h']
    rfl

theorem daysBeforeMonth_succ (year : Nat) {month : Nat} (hm : 1 ≤ month) :
    daysBeforeMonth year (month + 1) = daysBeforeMonth year month + daysInMonth year month := by
  obtain ⟨n, rfl⟩ := Nat.exists_eq_add_of_le' hm
  rw [daysBeforeMonth, daysBeforeMonth, Nat.add_sub_cancel, Nat.add_sub_cancel, List.range'_concat,
    List.foldl_append]
  simp [Nat.add_comm]

theorem daysBeforeMonth_mono (year : Nat) {month later : Nat} (hm : 1 ≤ month) (h : month ≤ later) :
    daysBeforeMonth year month ≤ daysBeforeMonth year later := by
  induction h with
  | refl => exact Nat.le_refl _
  | @step later h ih =>
    rw [Nat.le_eq] at h
    rw [Nat.succ_eq_add_one, daysBeforeMonth_succ year (by omega)]
    omega

theorem daysBeforeYear_succ (year : Nat) :
    daysBeforeYear (year + 1) = daysBeforeYear year + daysBeforeMonth year 13 := by
  have hmonths : daysBeforeMonth year 13 = 337 + daysInMonth year 2 := by
    change 0 + 31 + daysInMonth year 2 + 31 + 30 + 31 + 30 + 31 + 31 + 30 + 31 + 30 + 31 = _
    omega
  have hleap : daysInMonth year 2 = if isLeap year then 29 else 28 := rfl
  rw [daysBeforeYear_eq, daysBeforeYear_eq, hmonths, hleap]
  split_ifs with h
  · rw [isLeap, Bool.and_eq_true, Bool.or_eq_true, beq_iff_eq, bne_iff_ne, beq_iff_eq] at h
    omega
  · rw [isLeap, Bool.and_eq_true, Bool.or_eq_true, beq_iff_eq, bne_iff_ne, beq_iff_eq] at h
    omega

/-- Looking for a day from a month on that is not later, its month and its day are found. -/
theorem monthAndDay_eq {year target day : Nat} (hday : 1 ≤ day) (hmonth : day ≤ daysInMonth year target)
    (left : Nat) {month n : Nat} (hm : 1 ≤ month) (hle : month ≤ target) (hleft : target ≤ month + left)
    (hn : daysBeforeMonth year month + n = daysBeforeMonth year target + day) :
    monthAndDay year left month n = (target, day) := by
  induction left generalizing month n with
  | zero =>
    obtain rfl : month = target := by omega
    rw [monthAndDay, show n = day by omega]
  | succ left ih =>
    rcases Nat.lt_or_eq_of_le hle with hlt | rfl
    · have hnext := daysBeforeMonth_succ year hm
      have hlater := daysBeforeMonth_mono year (by omega : 1 ≤ month + 1) hlt
      rw [monthAndDay, if_neg (by omega)]
      exact ih (by omega) hlt (by omega) (by omega)
    · rw [monthAndDay, if_pos (by omega), show n = day by omega]

/-- A day of the calendar is found again from its number. -/
theorem civil_dayNumber {year month day : Nat} (hy : 1 ≤ year) (hm : 1 ≤ month) (hm' : month ≤ 12)
    (hd : 1 ≤ day) (hd' : day ≤ daysInMonth year month) :
    civil (dayNumber year month day) = (year, month, day) := by
  have hnext := daysBeforeMonth_succ year hm
  have hlater := daysBeforeMonth_mono year (by omega : 1 ≤ month + 1) (by omega : month + 1 ≤ 13)
  have hyear : yearOf (dayNumber year month day) = year := by
    apply yearOf_eq hy
    · rw [dayNumber]
      omega
    · rw [daysBeforeYear_succ, dayNumber]
      omega
  have hfirst : daysBeforeMonth year 1 = 0 := rfl
  have hoffset : (dayNumber year month day - daysBeforeYear year).toNat =
      daysBeforeMonth year month + day := by
    rw [dayNumber]
    omega
  rw [civil, hyear, hoffset]
  rw [monthAndDay_eq hd hd' 11 (Nat.le_refl 1) hm (by omega) (by omega)]

theorem daysInMonth_le (year month : Nat) : daysInMonth year month ≤ 31 := by
  unfold daysInMonth
  split
  any_goals split
  all_goals decide

end Calendar

namespace Text

theorem length_padDecimal {k n : Nat} (h : n < 10 ^ (k + 1)) :
    (padDecimal (k + 1) n).length = k + 1 := by
  have hlength := length_ofNat_le h
  rw [padDecimal, List.length_append, List.length_replicate]
  omega

theorem isDigit_of_mem_padDecimal (width n : Nat) :
    ∀ c ∈ padDecimal width n, c.isDigit = true := by
  rw [padDecimal, List.forall_mem_append]
  refine ⟨fun c hc => ?_, isDigit_of_mem_ofNat n⟩
  rw [(List.mem_replicate.mp hc).2]
  decide

theorem toNat_padDecimal (width n : Nat) : toNat (padDecimal width n) = n := by
  rw [padDecimal, toNat_zeros_append, toNat_ofNat]

end Text

namespace Calendar

theorem readDigits_padDecimal {k n : Nat} (h : n < 10 ^ (k + 1)) (rest : Text) :
    readDigits (k + 1) (Text.padDecimal (k + 1) n ++ rest) = some (n, rest) := by
  have hlength := Text.length_padDecimal h
  have hdigits : Text.isDigits (Text.padDecimal (k + 1) n) = true :=
    List.all_eq_true.mpr (Text.isDigit_of_mem_padDecimal _ n)
  rw [readDigits, List.take_left' hlength, List.drop_left' hlength]
  simp only [hlength, hdigits, and_self, if_true, Text.toNat_padDecimal]

end Calendar

namespace Date

open Calendar

variable (d : Date)

theorem toText_eq : d.toText = Text.padDecimal 4 d.year ++ (('-' : CodePoint) ::
    (Text.padDecimal 2 d.month ++ (('-' : CodePoint) :: Text.padDecimal 2 d.day))) := by
  rw [toText]
  simp only [List.append_assoc]
  rfl

theorem readDigits_year (rest : Text) :
    readDigits 4 (Text.padDecimal 4 d.year ++ rest) = some (d.year, rest) :=
  readDigits_padDecimal (by have := d.valid; omega) rest

theorem readDigits_month (rest : Text) :
    readDigits 2 (Text.padDecimal 2 d.month ++ rest) = some (d.month, rest) :=
  readDigits_padDecimal (by have := d.valid; omega) rest

theorem readDigits_day (rest : Text) :
    readDigits 2 (Text.padDecimal 2 d.day ++ rest) = some (d.day, rest) := by
  have hday := daysInMonth_le d.year d.month
  exact readDigits_padDecimal (by have := d.valid; omega) rest

theorem toText_ascii : ∀ c ∈ d.toText, c.val < 0x80 := by
  have hpad (width n : Nat) : ∀ c ∈ Text.padDecimal width n, c.val < 0x80 := by
    intro c hc
    have hdigit := Text.isDigit_of_mem_padDecimal width n c hc
    rw [CodePoint.isDigit, Bool.and_eq_true, decide_eq_true_eq, decide_eq_true_eq] at hdigit
    omega
  have hdash : ('-' : CodePoint).val < 0x80 := by decide
  rw [toText_eq, List.forall_mem_append, List.forall_mem_cons, List.forall_mem_append,
    List.forall_mem_cons]
  exact ⟨hpad _ _, hdash, hpad _ _, hdash, hpad _ _⟩

theorem toText_isUnicode : d.toText.isUnicode = true := Text.isUnicode_of_ascii d.toText_ascii

theorem length_toText : d.toText.length = 10 := by
  have hvalid := d.valid
  have hday := daysInMonth_le d.year d.month
  rw [toText_eq, List.length_append, List.length_cons, List.length_append, List.length_cons,
    Text.length_padDecimal (by omega), Text.length_padDecimal (by omega),
    Text.length_padDecimal (by omega)]

end Date

theorem DocumentDate.read_toText (d : Date) : DocumentDate.read (.string d.toText) = .ok d := by
  have hday : ofPlainDay? d.toText = some (Calendar.dayNumber d.year d.month d.day) := by
    have hvalid := d.valid
    have hdash (t : Text) : Calendar.skip? '-' (('-' : CodePoint) :: t) = some t := rfl
    have hday := d.readDigits_day []
    rw [List.append_nil] at hday
    rw [ofPlainDay?, readDay?, Date.toText_eq]
    simp only [Date.readDigits_year, Date.readDigits_month, hday, hdash, Option.bind_eq_bind,
      Option.bind_some, hvalid.2.2, and_self, if_true]
  have hcivil := Calendar.civil_dayNumber d.valid.1 d.valid.2.2.1 d.valid.2.2.2.1 d.valid.2.2.2.2.1
    d.valid.2.2.2.2.2
  have hread : ofDay (Calendar.dayNumber d.year d.month d.day) = .ok d := by
    unfold ofDay
    rw [hcivil]
    simp only [Date.ofCivil?_self]
  rw [DocumentDate.read, ofText, d.toText_isUnicode, hday]
  exact hread

theorem IsoDate.read_toText (d : Date) : IsoDate.read d.toText = .ok d := by
  have hread : read? d.toText = some (.calendar d.year d.month d.day) := by
    have hlength : (Utf8.encode d.toText).length = 10 :=
      (Utf8.length_encode_of_ascii d.toText_ascii).trans d.length_toText
    have hcount : [7, 8, 10].contains 10 = true := rfl
    rw [read?, d.toText_isUnicode, hlength, hcount, Date.toText_eq]
    have hmonth : (Text.padDecimal 2 d.month ++ (('-' : CodePoint) ::
        Text.padDecimal 2 d.day)).head? ≠ some ('W' : CodePoint) := by
      have hlength : (Text.padDecimal 2 d.month).length = 2 :=
        Text.length_padDecimal (by have := d.valid; omega)
      obtain ⟨c, t, hpad⟩ := List.exists_cons_of_length_pos (by omega : 0 < (Text.padDecimal 2 d.month).length)
      have hdigit := Text.isDigit_of_mem_padDecimal 2 d.month c (by simp [hpad])
      rw [hpad, List.cons_append, List.head?_cons, ne_eq, Option.some.injEq]
      rintro rfl
      exact absurd hdigit (by decide)
    have hdash : separator? true (('-' : CodePoint) :: Text.padDecimal 2 d.day) =
        some (Text.padDecimal 2 d.day) := rfl
    have hday := d.readDigits_day []
    rw [List.append_nil] at hday
    simp only [Bool.not_true, Bool.or_self, Bool.false_eq_true, if_false, Date.readDigits_year,
      Option.bind_eq_bind, Option.bind_some, List.head?_cons, decide_true, if_true, List.drop_one,
      List.tail_cons, if_neg hmonth, Date.readDigits_month, hdash, hday]
  rw [IsoDate.read, hread]
  simp only [ofCalendar, Date.ofCivil?_self]

end ParticipantRegistry
