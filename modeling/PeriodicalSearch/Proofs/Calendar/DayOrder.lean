import PeriodicalSearch.Proofs.Calendar.IsoText

/-! The order of days. Digits of one width are ordered as the numbers that they write, so the texts
of days with years of four digits are ordered as the days are. -/

namespace PeriodicalSearch

theorem compare_append {one other : List Char} (width : one.length = other.length)
    (behind behindOther : List Char) :
    compare (one ++ behind) (other ++ behindOther) =
      (compare one other).then (compare behind behindOther) := by
  induction one generalizing other with
  | nil =>
    rw [List.eq_nil_of_length_eq_zero width.symm]
    rfl
  | cons c one step =>
    cases other with
    | nil => cases width
    | cons d other =>
      rw [List.cons_append, List.cons_append, List.compare_cons_cons, List.compare_cons_cons,
        step (Nat.succ.inj width), Ordering.then_assoc]

theorem compare_toNat (c d : Char) : compare c d = compare c.toNat d.toNat := by
  change compareOfLessAndEq c d = compareOfLessAndEq c.toNat d.toNat
  unfold compareOfLessAndEq
  have less : c < d ↔ c.toNat < d.toNat := Iff.rfl
  simp only [less, Char.toNat_inj]

theorem compare_mul_add {base high low highOther lowOther : Nat} (small : low < base)
    (smallOther : lowOther < base) : compare (base * high + low) (base * highOther + lowOther) =
      (compare high highOther).then (compare low lowOther) := by
  rcases Nat.lt_trichotomy high highOther with less | rfl | more
  · have raised : base * (high + 1) ≤ base * highOther := Nat.mul_le_mul_left base less
    rw [Nat.mul_add_one] at raised
    rw [Nat.compare_eq_lt.2 less, Nat.compare_eq_lt.2 (by omega), Ordering.lt_then]
  · rw [Nat.compare_eq_eq.2 rfl, Ordering.eq_then]
    simp only [Nat.compare_eq_ite_lt, Nat.add_lt_add_iff_left]
  · have raised : base * (highOther + 1) ≤ base * high := Nat.mul_le_mul_left base more
    rw [Nat.mul_add_one] at raised
    rw [Nat.compare_eq_gt.2 more, Nat.compare_eq_gt.2 (by omega), Ordering.gt_then]

theorem compare_digit {c d : Char} (digit : c.isDigit = true) (digitOther : d.isDigit = true) :
    compare c d = compare (c.toNat - '0'.toNat) (d.toNat - '0'.toNat) := by
  have bounds := Text.digit_bounds digit
  have boundsOther := Text.digit_bounds digitOther
  rw [compare_toNat]
  change _ = compare (c.toNat - 48) (d.toNat - 48)
  have less : c.toNat - 48 < d.toNat - 48 ↔ c.toNat < d.toNat := by omega
  have more : d.toNat - 48 < c.toNat - 48 ↔ d.toNat < c.toNat := by omega
  simp only [Nat.compare_eq_ite_lt, less, more]

namespace Text

/-- Digits of one width are ordered as their numbers. -/
theorem compare_digits {one other : List Char} (oneDigits : ∀ c ∈ one, c.isDigit = true)
    (otherDigits : ∀ c ∈ other, c.isDigit = true) (width : one.length = other.length) :
    compare one other = compare (decimalValue one) (decimalValue other) := by
  induction one generalizing other with
  | nil =>
    rw [List.eq_nil_of_length_eq_zero width.symm]
    rfl
  | cons c one step =>
    cases other with
    | nil => cases width
    | cons d other =>
      have widths : one.length = other.length := Nat.succ.inj width
      have oneLater := fun e member => oneDigits e (List.mem_cons_of_mem c member)
      have otherLater := fun e member => otherDigits e (List.mem_cons_of_mem d member)
      have oneSmall := decimalValue_lt oneLater
      have otherSmall := decimalValue_lt otherLater
      have head := compare_digit (oneDigits c List.mem_cons_self) (otherDigits d List.mem_cons_self)
      rw [widths] at oneSmall
      rw [List.compare_cons_cons, step oneLater otherLater widths, decimalValue_cons,
        decimalValue_cons, widths, compare_mul_add oneSmall otherSmall, head]

end Text

namespace Date

instance : LE Date where
  le one other := one.year < other.year ∨ one.year = other.year ∧
    (one.month < other.month ∨ one.month = other.month ∧ one.day ≤ other.day)

instance (one other : Date) : Decidable (one ≤ other) :=
  inferInstanceAs (Decidable (_ ∨ _))

theorem compare_paddedDigits {width value valueOther : Nat} (positive : 0 < width)
    (bound : value < 10 ^ width) (boundOther : valueOther < 10 ^ width) :
    compare (Text.paddedDigits width value) (Text.paddedDigits width valueOther) =
      compare value valueOther := by
  have digits := Text.digits_paddedDigits positive bound
  have digitsOther := Text.digits_paddedDigits positive boundOther
  rw [Text.compare_digits digits.2 digitsOther.2 (digits.1.trans digitsOther.1.symm),
    Text.decimalValue_paddedDigits, Text.decimalValue_paddedDigits]

theorem compare_hyphen (behind behindOther : List Char) :
    compare ('-' :: behind) ('-' :: behindOther) = compare behind behindOther := by
  have same : compare '-' '-' = .eq := by decide
  rw [List.compare_cons_cons, same, Ordering.eq_then]

theorem natAbs_year_lt {date : Date} (plain : date.HasPlainYear) : date.year.natAbs < 10 ^ 4 := by
  have lower := plain.1
  have upper := plain.2
  omega

theorem compare_natAbs_year {one other : Date} (plain : one.HasPlainYear)
    (plainOther : other.HasPlainYear) :
    compare one.year.natAbs other.year.natAbs = compare one.year other.year := by
  have lower := plain.1
  have lowerOther := plainOther.1
  change compareOfLessAndEq _ _ = compareOfLessAndEq _ _
  have less : one.year.natAbs < other.year.natAbs ↔ one.year < other.year := by omega
  have same : one.year.natAbs = other.year.natAbs ↔ one.year = other.year := by omega
  simp only [compareOfLessAndEq, less, same]

theorem compare_text {one other : Date} (plain : one.HasPlainYear)
    (plainOther : other.HasPlainYear) :
    compare one.text other.text = (compare one.year other.year).then
      ((compare one.month other.month).then (compare one.day other.day)) := by
  have bound := natAbs_year_lt plain
  have boundOther := natAbs_year_lt plainOther
  have yearWidth := (Text.digits_paddedDigits (by decide) bound).1.trans
    (Text.digits_paddedDigits (by decide) boundOther).1.symm
  have monthWidth := (digits_month one).1.trans (digits_month other).1.symm
  have months : one.month < 10 ^ 2 := by have := one.month_bounds; omega
  have monthsOther : other.month < 10 ^ 2 := by have := other.month_bounds; omega
  rw [text, text, yearText_of_plain plain, yearText_of_plain plainOther, compare_append yearWidth,
    compare_paddedDigits (by decide) bound boundOther, compare_natAbs_year plain plainOther,
    compare_hyphen, compare_append monthWidth, compare_paddedDigits (by decide) months monthsOther,
    compare_hyphen, compare_paddedDigits (by decide) one.day_lt_hundred other.day_lt_hundred]

/-- Texts are ordered as their days. -/
theorem compare_text_ne_gt {one other : Date} (plain : one.HasPlainYear)
    (plainOther : other.HasPlainYear) : compare one.text other.text ≠ .gt ↔ one ≤ other := by
  rw [compare_text plain plainOther]
  change _ ↔ one.year < other.year ∨ one.year = other.year ∧
    (one.month < other.month ∨ one.month = other.month ∧ one.day ≤ other.day)
  simp only [ne_eq, Ordering.then_eq_gt, Std.compare_eq_gt, Std.compare_eq_iff_eq]
  omega

theorem compare_text_ne_lt {one other : Date} (plain : one.HasPlainYear)
    (plainOther : other.HasPlainYear) : compare one.text other.text ≠ .lt ↔ other ≤ one := by
  rw [← compare_text_ne_gt plainOther plain]
  exact not_congr Std.OrientedCmp.gt_iff_lt.symm

end Date

end PeriodicalSearch
