import PeriodicalSearch.Proofs.Calendar.IsoText
import PeriodicalSearch.Proofs.Text.Letters
import PeriodicalSearch.Text.Decimal

/-! Numbers of any length. What is read is the number that the digits write, zeros in front
included; one beyond the bound is refused at whatever digit it leaves the bound. -/

namespace PeriodicalSearch.Text

def IsNumeral (text : List Char) : Prop := text ≠ [] ∧ ∀ c ∈ text, c.isDigit = true

-- By search of the text; the library's instance would go through all characters.
instance (text : List Char) : Decidable (IsNumeral text) :=
  decidable_of_iff (text ≠ [] ∧ text.all Char.isDigit = true) (and_congr_right' List.all_eq_true)

variable {bound value : Nat} {excess : NumberFault} {text : List Char}

theorem alphanum_of_numeral (numeral : IsNumeral text) : ∀ c ∈ text, c.isAlphanum = true :=
  fun c member => isAlphanum_of_isDigit (numeral.2 c member)

/-- More digits make no smaller number. -/
theorem le_ofDigitChars (value : Nat) (text : List Char) : value ≤ Nat.ofDigitChars 10 text value := by
  rw [Nat.ofDigitChars_eq_ofDigitChars_zero]
  calc
    value ≤ 10 ^ text.length * value := Nat.le_mul_of_pos_left value (Nat.pow_pos (by decide))
    _ ≤ _ := Nat.le_add_right ..

theorem continueNumber_of_digits (digits : ∀ c ∈ text, c.isDigit = true) (within : value ≤ bound) :
    continueNumber bound excess value text =
      if Nat.ofDigitChars 10 text value ≤ bound then .ok (Nat.ofDigitChars 10 text value)
      else .error excess := by
  induction text generalizing value with
  | nil => rw [continueNumber, Nat.ofDigitChars_nil, if_pos within]
  | cons c rest step =>
    have digit : digitValue? c = some (c.toNat - '0'.toNat) := if_pos (digits c List.mem_cons_self)
    have later := fun d member => digits d (List.mem_cons_of_mem c member)
    have grows := le_ofDigitChars (10 * value + (c.toNat - '0'.toNat)) rest
    rw [continueNumber, digit, Nat.ofDigitChars_cons, Nat.mul_comm value]
    dsimp only
    by_cases fits : 10 * value + (c.toNat - '0'.toNat) ≤ bound
    · rw [if_pos fits, step later fits]
    · rw [if_neg fits, if_neg fun small => fits (Nat.le_trans grows small)]

theorem isDigit_of_continueNumber {number : Nat}
    (read : continueNumber bound excess value text = .ok number) :
    ∀ c ∈ text, c.isDigit = true := by
  induction text generalizing value with
  | nil => exact fun c none => nomatch none
  | cons c rest step =>
    rw [continueNumber, digitValue?] at read
    by_cases digit : c.isDigit = true
    · rw [if_pos digit] at read
      dsimp only at read
      split at read
      · exact List.forall_mem_cons.2 ⟨digit, step read⟩
      · cases read
    · rw [if_neg digit] at read
      cases read

theorem readDigits_of_isNumeral (numeral : IsNumeral text) : readDigits bound excess text =
    if decimalValue text ≤ bound then .ok (decimalValue text) else .error excess := by
  obtain ⟨nonempty, digits⟩ := numeral
  rw [decimalValue_eq, ← continueNumber_of_digits digits (Nat.zero_le bound)]
  cases text with
  | nil => exact absurd rfl nonempty
  | cons c rest => rfl

theorem readDigits_eq_ok_iff {number : Nat} : readDigits bound excess text = .ok number ↔
    IsNumeral text ∧ decimalValue text = number ∧ number ≤ bound := by
  constructor
  · intro read
    have numeral : IsNumeral text := by
      cases text with
      | nil => cases read
      | cons c rest => exact ⟨List.cons_ne_nil c rest, isDigit_of_continueNumber read⟩
    rw [readDigits_of_isNumeral numeral] at read
    split at read
    next within =>
      cases read
      exact ⟨numeral, rfl, within⟩
    next => cases read
  · rintro ⟨numeral, rfl, within⟩
    rw [readDigits_of_isNumeral numeral, if_pos within]

theorem isNumeral_digits (value : Nat) : IsNumeral (digits value) :=
  ⟨Nat.toDigits_ne_nil, fun _ member =>
    Nat.isDigit_of_mem_toDigits (by decide) (by decide) member⟩

theorem decimalValue_digits (value : Nat) : decimalValue (digits value) = value :=
  (decimalValue_eq _).trans Nat.ofDigitChars_ten_toDigits

theorem digitValue?_toLower (c : Char) : digitValue? c.toLower = digitValue? c :=
  apply_toLower (by decide) c

theorem continueNumber_folded (value : Nat) (text : List Char) :
    continueNumber bound excess value (folded text) = continueNumber bound excess value text := by
  induction text generalizing value with
  | nil => rfl
  | cons c rest step =>
    change continueNumber bound excess value (c.toLower :: folded rest) = _
    simp only [continueNumber, digitValue?_toLower, step]

theorem readDigits_folded (text : List Char) :
    readDigits bound excess (folded text) = readDigits bound excess text := by
  cases text with
  | nil => rfl
  | cons c rest => exact continueNumber_folded 0 (c :: rest)

end PeriodicalSearch.Text
