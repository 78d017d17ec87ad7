import Mathlib
import PeriodicalSearch.Calendar.Date

/-! The ISO text of days. Digit strings of one width and the numbers below the power of ten
determine each other, so ten characters of the right form are the text of at most one day, and the
calendar has that day exactly when it has the numbers. -/

namespace PeriodicalSearch

namespace Text

def Digits (count : Nat) (text : List Char) : Prop :=
  text.length = count ∧ ∀ c ∈ text, c.isDigit = true

theorem decimalValue_eq (text : List Char) : decimalValue text = Nat.ofDigitChars 10 text 0 := by
  unfold decimalValue Nat.ofDigitChars
  simp only [Nat.mul_comm]

theorem decimalValue_cons (c : Char) (text : List Char) :
    decimalValue (c :: text) = 10 ^ text.length * (c.toNat - '0'.toNat) + decimalValue text := by
  rw [decimalValue_eq, decimalValue_eq, Nat.ofDigitChars_cons, Nat.mul_zero, Nat.zero_add,
    Nat.ofDigitChars_eq_ofDigitChars_zero]

theorem digit_bounds {c : Char} (digit : c.isDigit = true) : 48 ≤ c.toNat ∧ c.toNat ≤ 57 := by
  simp only [Char.isDigit, Bool.and_eq_true, decide_eq_true_eq, UInt32.le_iff_toNat_le] at digit
  exact digit

theorem decimalValue_lt {text : List Char} (digits : ∀ c ∈ text, c.isDigit = true) :
    decimalValue text < 10 ^ text.length := by
  induction text with
  | nil => exact Nat.one_pos
  | cons c text ih =>
    have later := ih fun d member => digits d (List.mem_cons_of_mem _ member)
    have bounds := digit_bounds (digits c List.mem_cons_self)
    have small : c.toNat - '0'.toNat ≤ 9 := by
      change c.toNat - 48 ≤ 9
      omega
    rw [decimalValue_cons, List.length_cons, Nat.pow_succ]
    calc
      _ < 10 ^ text.length * (c.toNat - '0'.toNat) + 10 ^ text.length :=
        Nat.add_lt_add_left later _
      _ ≤ 10 ^ text.length * 9 + 10 ^ text.length :=
        Nat.add_le_add_right (Nat.mul_le_mul_left _ small) _
      _ = 10 ^ text.length * 10 := (Nat.mul_succ ..).symm

/-- Digit strings of the same width that write the same number are the same. -/
theorem eq_of_decimalValue_eq {one other : List Char} (oneDigits : ∀ c ∈ one, c.isDigit = true)
    (otherDigits : ∀ c ∈ other, c.isDigit = true) (width : one.length = other.length)
    (same : decimalValue one = decimalValue other) : one = other := by
  induction one generalizing other with
  | nil => exact (List.eq_nil_of_length_eq_zero width.symm).symm
  | cons c one ih =>
    cases other with
    | nil => cases width
    | cons d other =>
      have widths : one.length = other.length := Nat.succ.inj width
      have oneLater := fun e member => oneDigits e (List.mem_cons_of_mem c member)
      have otherLater := fun e member => otherDigits e (List.mem_cons_of_mem d member)
      have oneBounds := digit_bounds (oneDigits c List.mem_cons_self)
      have otherBounds := digit_bounds (otherDigits d List.mem_cons_self)
      have oneSmall := decimalValue_lt oneLater
      have otherSmall := decimalValue_lt otherLater
      rw [decimalValue_cons, decimalValue_cons, widths] at same
      rw [widths] at oneSmall
      have positive : 0 < 10 ^ other.length := Nat.pow_pos (by decide)
      have heads : c.toNat - '0'.toNat = d.toNat - '0'.toNat := by
        have quotients := congrArg (· / 10 ^ other.length) same
        simpa only [Nat.mul_add_div positive, Nat.div_eq_of_lt oneSmall,
          Nat.div_eq_of_lt otherSmall, Nat.add_zero] using quotients
      rw [heads] at same
      have tails := ih oneLater otherLater widths (Nat.add_left_cancel same)
      have points : c.toNat = d.toNat := by
        change c.toNat - 48 = d.toNat - 48 at heads
        omega
      rw [tails, Char.toNat_inj.1 points]

theorem isDigit_of_mem_paddedDigits {width value : Nat} {c : Char}
    (member : c ∈ paddedDigits width value) : c.isDigit = true := by
  rcases List.mem_append.1 member with zero | digit
  · rw [(List.mem_replicate.1 zero).2]
    decide
  · exact Nat.isDigit_of_mem_toDigits (by decide) (by decide) digit

theorem length_paddedDigits_le {width value most : Nat} (narrow : width ≤ most)
    (positive : 0 < most) (bound : value < 10 ^ most) :
    (paddedDigits width value).length ≤ most := by
  have short : (digits value).length ≤ most :=
    (Nat.length_toDigits_le_iff (by decide) positive).2 bound
  rw [paddedDigits, List.length_append, List.length_replicate]
  omega

theorem digits_paddedDigits {width value : Nat} (positive : 0 < width)
    (bound : value < 10 ^ width) : Digits width (paddedDigits width value) := by
  have short := length_paddedDigits_le (Nat.le_refl width) positive bound
  constructor
  · rw [paddedDigits, List.length_append, List.length_replicate] at short ⊢
    omega
  · exact fun c => isDigit_of_mem_paddedDigits

theorem decimalValue_paddedDigits (width value : Nat) :
    decimalValue (paddedDigits width value) = value := by
  rw [decimalValue_eq, paddedDigits, Nat.ofDigitChars_append, Nat.ofDigitChars_replicate_zero,
    Nat.mul_zero]
  exact Nat.ofDigitChars_ten_toDigits

theorem paddedDigits_decimalValue {width : Nat} {text : List Char} (positive : 0 < width)
    (form : Digits width text) : paddedDigits width (decimalValue text) = text := by
  have bound : decimalValue text < 10 ^ width := form.1 ▸ decimalValue_lt form.2
  have padded := digits_paddedDigits positive bound
  exact eq_of_decimalValue_eq padded.2 form.2 (padded.1.trans form.1.symm)
    (decimalValue_paddedDigits width _)

end Text

namespace Date

def IsForm (text : List Char) : Prop :=
  ∃ year month day, Text.Digits 4 year ∧ Text.Digits 2 month ∧ Text.Digits 2 day ∧
    text = year ++ '-' :: (month ++ '-' :: day)

theorem IsForm.length {text : List Char} (form : IsForm text) : text.length = 10 := by
  obtain ⟨year, month, day, years, months, days, rfl⟩ := form
  simp only [List.length_append, List.length_cons, years.1, months.1, days.1]

theorem month_bounds (date : Date) : 1 ≤ date.month ∧ date.month ≤ 12 :=
  ⟨date.isDay.2.2.1, date.isDay.2.2.2.1⟩

theorem day_lt_hundred (date : Date) : date.day < 10 ^ 2 := by
  have bound := date.isDay.2.2.2.2.2
  have month : Calendar.daysInMonth date.year date.month ≤ 31 := by
    unfold Calendar.daysInMonth
    split
    · split <;> decide
    all_goals decide
  omega

theorem digits_month (date : Date) : Text.Digits 2 (Text.paddedDigits 2 date.month) := by
  have bounds := month_bounds date
  exact Text.digits_paddedDigits (by decide) (by omega)

theorem digits_day (date : Date) : Text.Digits 2 (Text.paddedDigits 2 date.day) :=
  Text.digits_paddedDigits (by decide) (day_lt_hundred date)

/-- The years that are written with four digits and no sign. -/
def HasPlainYear (date : Date) : Prop := 0 ≤ date.year ∧ date.year ≤ 9999

instance (date : Date) : Decidable date.HasPlainYear := inferInstanceAs (Decidable (_ ∧ _))

theorem yearText_of_plain {date : Date} (plain : date.HasPlainYear) :
    yearText date.year = Text.paddedDigits 4 date.year.natAbs := if_pos plain

theorem length_yearText_of_signed {date : Date} (signed : ¬ date.HasPlainYear) :
    5 ≤ (yearText date.year).length := by
  have text : yearText date.year = _ :: _ := if_neg signed
  rw [text, List.length_cons, Text.paddedDigits, List.length_append, List.length_replicate]
  omega

theorem isForm_text {date : Date} (plain : date.HasPlainYear) : IsForm date.text := by
  have bound : date.year.natAbs < 10 ^ 4 := by
    have := plain.1
    have := plain.2
    omega
  refine ⟨_, _, _, Text.digits_paddedDigits (by decide) bound, digits_month date,
    digits_day date, ?_⟩
  rw [text, yearText_of_plain plain]

/-- Only the years without a sign have a text of ten characters. -/
theorem hasPlainYear_of_isForm {date : Date} (form : IsForm date.text) : date.HasPlainYear := by
  apply Decidable.byContradiction
  intro signed
  have year := length_yearText_of_signed signed
  have length := form.length
  simp only [text, List.length_append, List.length_cons, (digits_month date).1,
    (digits_day date).1] at length
  omega

/-- A text of the form is the text of a day exactly when the calendar has its numbers. -/
theorem text_eq_iff {year month day : List Char} (years : Text.Digits 4 year)
    (months : Text.Digits 2 month) (days : Text.Digits 2 day) (date : Date) :
    date.text = year ++ '-' :: (month ++ '-' :: day) ↔
      ofYmd? (Text.decimalValue year : Nat) (Text.decimalValue month) (Text.decimalValue day) =
        some date := by
  constructor
  · intro same
    have plain : date.HasPlainYear :=
      hasPlainYear_of_isForm ⟨year, month, day, years, months, days, same⟩
    have bound : date.year.natAbs < 10 ^ 4 := by
      have := plain.1
      have := plain.2
      omega
    rw [text, yearText_of_plain plain] at same
    have yearWidth := (Text.digits_paddedDigits (by decide) bound).1.trans years.1.symm
    have yearSame := List.append_inj_left same yearWidth
    have later := List.tail_eq_of_cons_eq (List.append_inj_right same yearWidth)
    have monthWidth := (digits_month date).1.trans months.1.symm
    have monthSame := List.append_inj_left later monthWidth
    have daySame := List.tail_eq_of_cons_eq (List.append_inj_right later monthWidth)
    rw [← yearSame, ← monthSame, ← daySame]
    simp only [Text.decimalValue_paddedDigits]
    rw [Int.natAbs_of_nonneg plain.1]
    exact ofYmd?_self date
  · intro found
    unfold ofYmd? at found
    split at found
    next isDay =>
      cases found
      have small : Text.decimalValue year < 10 ^ 4 := years.1 ▸ Text.decimalValue_lt years.2
      have plain : 0 ≤ (Text.decimalValue year : Int) ∧ (Text.decimalValue year : Int) ≤ 9999 := by
        omega
      rw [text, yearText, if_pos plain, Int.natAbs_natCast,
        Text.paddedDigits_decimalValue (by decide) years,
        Text.paddedDigits_decimalValue (by decide) months,
        Text.paddedDigits_decimalValue (by decide) days]
    next => cases found

end Date

end PeriodicalSearch
