import PeriodicalSearch.Proofs.Calendar.IsoText
import PeriodicalSearch.Proofs.Text.Letters
import PeriodicalSearch.Query.Printer
import PeriodicalSearch.Sql.Cell

/-! The texts of numbers, days, moments and identifiers: of which characters they are, how long they
are, and that numbers and days are told apart by them. -/

namespace PeriodicalSearch

open Text

def Text.IsMark (c : Char) : Prop := c.isAlphanum = true ∨ c = '-' ∨ c = '+' ∨ c = ':' ∨ c = '.'

def Text.IsFigure (c : Char) : Prop := c.isDigit = true ∨ c = '-' ∨ c = '+'

namespace Text

theorem IsFigure.isMark {c : Char} (figure : IsFigure c) : IsMark c := by
  rcases figure with digit | hyphen | plus
  · exact .inl (isAlphanum_of_isDigit digit)
  · exact .inr (.inl hyphen)
  · exact .inr (.inr (.inl plus))

theorem IsFigure.toUpper_eq {c : Char} (figure : IsFigure c) : c.toUpper = c := by
  rcases figure with digit | rfl | rfl
  · exact forall_ascii (fun c => c.isDigit = true → c.toUpper = c) (by decide) c
      (ascii_of_isAlphanum (isAlphanum_of_isDigit digit)) digit
  · rfl
  · rfl

theorem IsMark.isPlain {c : Char} (mark : IsMark c) : IsPlain c := by
  rcases mark with inWord | rfl | rfl | rfl | rfl
  · exact forall_ascii (fun c => c.isAlphanum = true → IsPlain c) (by decide) c
      (ascii_of_isAlphanum inWord) inWord
  all_goals decide

theorem IsMark.quotedCharacter_eq {c : Char} (mark : IsMark c) : Query.quotedCharacter c = [c] := by
  rcases mark with inWord | rfl | rfl | rfl | rfl
  · exact forall_ascii (fun c => c.isAlphanum = true → Query.quotedCharacter c = [c]) (by decide) c
      (ascii_of_isAlphanum inWord) inWord
  all_goals rfl

theorem map_toUpper_of_figures {text : List Char} (figures : ∀ c ∈ text, IsFigure c) :
    text.map Char.toUpper = text :=
  (List.map_congr_left fun c member => (figures c member).toUpper_eq).trans (List.map_id' text)

theorem quotedForm_of_marks {text : List Char} (marks : ∀ c ∈ text, IsMark c) :
    Query.quotedForm text = '"' :: (text ++ ['"']) := by
  have single : text.flatMap Query.quotedCharacter = text.flatMap ([·]) :=
    List.flatMap_congr fun c member => (marks c member).quotedCharacter_eq
  rw [Query.quotedForm, single, List.flatMap_singleton']

end Text

namespace Sql

theorem integerText_eq (value : Int) : integerText value = (toString value).toList := by
  cases value with
  | ofNat number => exact Nat.toList_repr.symm
  | negSucc number =>
    have written : toString (Int.negSucc number) = "-" ++ Nat.repr (number + 1) := rfl
    rw [integerText, if_pos (Int.negSucc_lt_zero number), written, String.toList_append,
      Nat.toList_repr]
    rfl

theorem toList_toString_of_nonneg {value : Int} (nonneg : 0 ≤ value) :
    (toString value).toList = digits value.natAbs := by
  rw [← integerText_eq, integerText, if_neg (Int.not_lt.2 nonneg)]

theorem figures_integerText (value : Int) : ∀ c ∈ integerText value, IsFigure c := by
  have digits : ∀ c ∈ digits value.natAbs, IsFigure c := fun c member =>
    .inl (Nat.isDigit_of_mem_toDigits (by decide) (by decide) member)
  rw [integerText]
  split
  · exact List.forall_mem_cons.2 ⟨.inr (.inl rfl), digits⟩
  · exact digits

theorem null_notMem_integerText (value : Int) : '\x00' ∉ integerText value := fun member =>
  (figures_integerText value _ member).isMark.isPlain.2 rfl

theorem integerText_inj {one other : Int} : integerText one = integerText other ↔ one = other := by
  rw [integerText_eq, integerText_eq, String.toList_inj]
  exact Int.repr_inj

theorem length_integerText_le {value : Int} {most : Nat} (positive : 0 < most)
    (bound : value.natAbs < 10 ^ most) : (integerText value).length ≤ most + 1 := by
  have width : (digits value.natAbs).length ≤ most :=
    (Nat.length_toDigits_le_iff (by decide) positive).2 bound
  rw [integerText]
  split
  · exact Nat.succ_le_succ width
  · exact Nat.le_succ_of_le width

end Sql

namespace Date

theorem figures_yearText (year : Int) : ∀ c ∈ yearText year, IsFigure c := by
  have digits : ∀ c ∈ paddedDigits 4 year.natAbs, IsFigure c := fun c member =>
    .inl (isDigit_of_mem_paddedDigits member)
  rw [yearText]
  split
  · exact digits
  · refine List.forall_mem_cons.2 ⟨?_, digits⟩
    split
    · exact .inr (.inl rfl)
    · exact .inr (.inr rfl)

theorem figures_text (date : Date) : ∀ c ∈ date.text, IsFigure c := by
  have hyphen : IsFigure '-' := .inr (.inl rfl)
  have digits (value : Nat) : ∀ c ∈ paddedDigits 2 value, IsFigure c := fun c member =>
    .inl (isDigit_of_mem_paddedDigits member)
  rw [text]
  simp only [List.forall_mem_append, List.forall_mem_cons]
  exact ⟨figures_yearText date.year, hyphen, digits _, hyphen, digits _⟩

theorem yearText_inj {one other : Int} : yearText one = yearText other ↔ one = other := by
  refine ⟨fun same => ?_, fun same => same ▸ rfl⟩
  have digits : paddedDigits 4 one.natAbs = paddedDigits 4 other.natAbs →
      one.natAbs = other.natAbs := fun same => by
    rw [← decimalValue_paddedDigits 4 one.natAbs, same, decimalValue_paddedDigits]
  have unsigned {value : Nat} {sign : Char} {rest : List Char} (letter : sign.isDigit = false) :
      paddedDigits 4 value ≠ sign :: rest := fun signed => by
    cases letter.symm.trans (isDigit_of_mem_paddedDigits (signed ▸ List.mem_cons_self))
  have sign (year : Int) : (if year < 0 then '-' else '+').isDigit = false := by
    split <;> rfl
  rw [yearText, yearText] at same
  by_cases plain : 0 ≤ one ∧ one ≤ 9999
  · rw [if_pos plain] at same
    by_cases plainOther : 0 ≤ other ∧ other ≤ 9999
    · rw [if_pos plainOther] at same
      have values := digits same
      omega
    · rw [if_neg plainOther] at same
      exact absurd same (unsigned (sign other))
  · rw [if_neg plain] at same
    by_cases plainOther : 0 ≤ other ∧ other ≤ 9999
    · rw [if_pos plainOther] at same
      exact absurd same.symm (unsigned (sign one))
    · rw [if_neg plainOther] at same
      obtain ⟨signs, behind⟩ := List.cons.inj same
      have values := digits behind
      split at signs <;> split at signs
      · omega
      · cases signs
      · cases signs
      · omega

theorem text_inj {one other : Date} : one.text = other.text ↔ one = other := by
  refine ⟨fun same => ?_, fun same => same ▸ rfl⟩
  have days := (digits_day one).1.trans (digits_day other).1.symm
  have months := (digits_month one).1.trans (digits_month other).1.symm
  have behind : ('-' :: (paddedDigits 2 one.month ++ '-' :: paddedDigits 2 one.day)).length =
      ('-' :: (paddedDigits 2 other.month ++ '-' :: paddedDigits 2 other.day)).length := by
    simp only [List.length_cons, List.length_append, months, days]
  obtain ⟨year, later⟩ := List.append_inj' same behind
  obtain ⟨month, day⟩ := List.append_inj (List.tail_eq_of_cons_eq later) months
  have value {width one other : Nat} (same : paddedDigits width one = paddedDigits width other) :
      one = other := by
    rw [← decimalValue_paddedDigits width one, same, decimalValue_paddedDigits]
  have sameYear := yearText_inj.1 year
  have sameMonth := value month
  have sameDay := value (List.tail_eq_of_cons_eq day)
  cases one
  cases other
  cases sameYear
  cases sameMonth
  cases sameDay
  rfl

theorem length_text_le (date : Date) : date.text.length ≤ 13 := by
  have lower : Calendar.minYear ≤ date.year := date.isDay.1
  have upper : date.year ≤ Calendar.maxYear := date.isDay.2.1
  rw [Calendar.minYear] at lower
  rw [Calendar.maxYear] at upper
  have width : (paddedDigits 4 date.year.natAbs).length ≤ 6 :=
    length_paddedDigits_le (by decide) (by decide) (by omega)
  have year : (yearText date.year).length ≤ 7 := by
    rw [yearText]
    split
    · exact Nat.le_succ_of_le width
    · exact Nat.succ_le_succ width
  have month := (digits_month date).1
  have day := (digits_day date).1
  rw [text]
  simp only [List.length_append, List.length_cons]
  omega

end Date

namespace Timestamp

theorem marks_fractionText (nanos : Nat) : ∀ c ∈ fractionText nanos, IsMark c := by
  have digits (width value : Nat) : ∀ c ∈ '.' :: paddedDigits width value, IsMark c :=
    List.forall_mem_cons.2 ⟨.inr (.inr (.inr (.inr rfl))), fun c member =>
      .inl (isAlphanum_of_isDigit (isDigit_of_mem_paddedDigits member))⟩
  rw [fractionText]
  split
  · exact fun c none => nomatch none
  · split
    · exact digits 3 _
    · split
      · exact digits 6 _
      · exact digits 9 _

theorem marks_text (moment : Timestamp) : ∀ c ∈ moment.text, IsMark c := by
  have digits (value : Nat) : ∀ c ∈ paddedDigits 2 value, IsMark c := fun c member =>
    .inl (isAlphanum_of_isDigit (isDigit_of_mem_paddedDigits member))
  have colon : IsMark ':' := .inr (.inr (.inr (.inl rfl)))
  rw [text, clockText]
  simp only [List.forall_mem_append, List.forall_mem_cons]
  exact ⟨⟨fun c member => (moment.date.figures_text c member).isMark, .inl rfl, digits _, colon,
    digits _, colon, digits _, marks_fractionText _⟩, .inl rfl, fun c none => nomatch none⟩

theorem length_fractionText_le {nanos : Nat} (bound : nanos < Calendar.nanosPerSecond) :
    (fractionText nanos).length ≤ 10 := by
  rw [Calendar.nanosPerSecond] at bound
  have width {width value : Nat} (narrow : width ≤ 9) (small : value < 10 ^ 9) :
      ('.' :: paddedDigits width value).length ≤ 10 :=
    Nat.succ_le_succ (length_paddedDigits_le narrow (by decide) small)
  rw [fractionText]
  split
  · decide
  · split
    · exact width (by decide) (by omega)
    · split
      · exact width (by decide) (by omega)
      · exact width (by decide) (by omega)

theorem length_text_le (moment : Timestamp) : moment.text.length ≤ 33 := by
  obtain ⟨minute, second, nanos⟩ := moment.isTime
  rw [Calendar.minutesPerDay] at minute
  have digits {value : Nat} (small : value < 10 ^ 2) : (paddedDigits 2 value).length = 2 :=
    (digits_paddedDigits (by decide) small).1
  have date := moment.date.length_text_le
  have hours : (paddedDigits 2 (moment.minute / 60)).length = 2 := digits (by omega)
  have minutes : (paddedDigits 2 (moment.minute % 60)).length = 2 := digits (by omega)
  have seconds : (paddedDigits 2 moment.second).length = 2 := digits (by omega)
  have fraction := length_fractionText_le nanos
  rw [text, clockText]
  simp only [List.length_append, List.length_cons, List.length_nil]
  omega

/-- What responses show of a moment is not what the database keeps of any, in capitals or not. -/
theorem map_toUpper_storedText_ne (kept shown : Timestamp) :
    kept.storedText.map Char.toUpper ≠ shown.text.map Char.toUpper := by
  intro same
  have zero : ("+00:00".toList.map Char.toUpper).getLast? = some '0' := by decide
  have letter : (['Z'].map Char.toUpper).getLast? = some 'Z' := by decide
  have last := congrArg List.getLast? same
  rw [storedText, text, List.map_append, List.map_append, List.getLast?_append,
    List.getLast?_append, zero, letter] at last
  cases last

end Timestamp

namespace Uuid

theorem isAlphanum_of_mem_toDigits {value : Nat} {c : Char} (member : c ∈ Nat.toDigits 16 value) :
    c.isAlphanum = true := by
  have digit : ∀ digit < 16, (Nat.digitChar digit).isAlphanum = true := by decide
  induction value using Nat.strongRecOn with
  | ind value step =>
    rw [Nat.toDigits_eq_if (by decide)] at member
    split at member
    next small =>
      rw [List.mem_singleton.1 member]
      exact digit value small
    next large =>
      rcases List.mem_append.1 member with earlier | last
      · exact step _ (Nat.div_lt_self (by omega) (by decide)) earlier
      · rw [List.mem_singleton.1 last]
        exact digit _ (Nat.mod_lt value (by decide))

theorem isAlphanum_of_mem_hexText {width value : Nat} {c : Char}
    (member : c ∈ hexText width value) : c.isAlphanum = true := by
  rcases List.mem_append.1 member with zero | digit
  · rw [(List.mem_replicate.1 zero).2]
    rfl
  · exact isAlphanum_of_mem_toDigits digit

theorem marks_text (id : Uuid) : ∀ c ∈ id.text, IsMark c := by
  have hyphen : IsMark '-' := .inr (.inl rfl)
  have digit : ∀ c ∈ hexText 32 id.bits.toNat, IsMark c := fun c member =>
    .inl (isAlphanum_of_mem_hexText member)
  have taken (start count : Nat) :
      ∀ c ∈ ((hexText 32 id.bits.toNat).drop start).take count, IsMark c := fun c member =>
    digit c (List.mem_of_mem_drop (List.mem_of_mem_take member))
  rw [text]
  simp only [List.forall_mem_append, List.forall_mem_cons]
  exact ⟨taken 0 8, hyphen, taken 8 4, hyphen, taken 12 4, hyphen, taken 16 4, hyphen,
    fun c member => digit c (List.mem_of_mem_drop member)⟩

theorem length_text (id : Uuid) : id.text.length = 36 := by
  have bound : id.bits.toNat < 16 ^ 32 := id.bits.isLt
  have short := (Nat.length_toDigits_le_iff (by decide) (by decide)).2 bound
  have width : (hexText 32 id.bits.toNat).length = 32 := by
    rw [hexText]
    simp only [List.length_append, List.length_replicate]
    omega
  rw [text]
  simp only [List.length_append, List.length_cons, List.length_take, List.length_drop, width]
  decide

theorem length_octets (id : Uuid) : id.octets.length = 16 := by
  rw [octets, List.length_map, List.length_range]

end Uuid

end PeriodicalSearch
