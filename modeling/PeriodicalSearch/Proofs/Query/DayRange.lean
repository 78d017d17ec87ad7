import PeriodicalSearch.Proofs.Calendar.IsoText
import PeriodicalSearch.Proofs.Query.Attempts
import PeriodicalSearch.Proofs.Text.Letters
import PeriodicalSearch.Query.Parser
import PeriodicalSearch.Query.Printer

/-! Ranges of days as the grammar reads them. A range is read from a text exactly when the text
begins with the written form of a range and a blank or the end of the query follows; the written
form is made of strict characters, so a range is always a whole bare word. -/

namespace PeriodicalSearch

namespace Range

variable {α β : Type}

def map (f : α → β) : Range α → Range β
  | .between first last => .between (f first) (f last)
  | .upTo last => .upTo (f last)
  | .since first => .since (f first)

def days : Range α → List α
  | .between first last => [first, last]
  | .upTo last => [last]
  | .since first => [first]

theorem days_map (f : α → β) (range : Range α) : (range.map f).days = range.days.map f := by
  cases range <;> rfl

def inner : Range (List Char) → List Char
  | .between first last => first ++ ',' :: last
  | .upTo last => ',' :: last
  | .since first => first ++ [',']

def form (range : Range (List Char)) : List Char := '(' :: (range.inner ++ [')'])

def Writes (range : Range (List Char)) (text : List Char) : Prop :=
  text = range.form ∧ ∀ day ∈ range.days, Date.IsForm day

end Range

namespace Query

open Grammar Rule

theorem rangeText_eq_form (range : Range Date) : rangeText range = (range.map Date.text).form := by
  cases range with
  | between first last => simp only [rangeText, Range.map, Range.form, Range.inner,
      List.append_assoc, List.cons_append]
  | upTo last => simp only [rangeText, Range.map, Range.form, Range.inner, List.cons_append]
  | since first => simp only [rangeText, Range.map, Range.form, Range.inner, List.append_assoc,
      List.cons_append, List.nil_append]

def DayLiteral.at (place : Place) : DayLiteral where
  place := place
  year := Text.decimalValue (place.take 4)
  month := Text.decimalValue ((place.drop 5).take 2)
  day := Text.decimalValue ((place.drop 8).take 2)

theorem DayLiteral.at_append {year month day : List Char} (years : Text.Digits 4 year)
    (months : Text.Digits 2 month) (days : Text.Digits 2 day) (rest : Place) :
    DayLiteral.at (year ++ '-' :: (month ++ '-' :: (day ++ rest))) =
      ⟨year ++ '-' :: (month ++ '-' :: (day ++ rest)), Text.decimalValue year,
        Text.decimalValue month, Text.decimalValue day⟩ := by
  have afterYear : (year ++ '-' :: (month ++ '-' :: (day ++ rest))).drop 5 =
      month ++ '-' :: (day ++ rest) := by
    rw [List.drop_append, years.1, List.drop_of_length_le (by rw [years.1]; decide)]
    rfl
  have afterMonth : (year ++ '-' :: (month ++ '-' :: (day ++ rest))).drop 8 = day ++ rest := by
    have skip : (month ++ '-' :: (day ++ rest)).drop 3 = day ++ rest := by
      rw [List.drop_append, months.1, List.drop_of_length_le (by rw [months.1]; decide)]
      rfl
    calc
      _ = ((year ++ '-' :: (month ++ '-' :: (day ++ rest))).drop 5).drop 3 :=
        (List.drop_drop ..).symm
      _ = day ++ rest := by rw [afterYear, skip]
  unfold DayLiteral.at
  rw [afterYear, afterMonth, List.take_left' years.1, List.take_left' months.1,
    List.take_left' days.1]

theorem number_outcome_eq_some {count value : Nat} {text rest : Place} :
    (number count text).outcome = some (value, rest) ↔
      ∃ digits, Text.Digits count digits ∧ text = digits ++ rest ∧
        value = Text.decimalValue digits := by
  unfold number
  constructor
  · intro read
    split at read
    next found =>
      cases read
      exact ⟨text.take count, ⟨found.1, List.all_eq_true.1 found.2⟩,
        (List.take_append_drop count text).symm, rfl⟩
    next => cases read
  · intro found
    obtain ⟨digits, form, rfl, rfl⟩ := found
    rw [List.take_left' form.1, if_pos ⟨form.1, List.all_eq_true.2 form.2⟩,
      List.drop_left' form.1]

theorem dayLiteral_outcome_eq_some {literal : DayLiteral} {text rest : Place} :
    (dayLiteral text).outcome = some (literal, rest) ↔
      ∃ day, Date.IsForm day ∧ text = day ++ rest ∧ literal = .at text := by
  simp only [dayLiteral, named_outcome, bind_outcome_eq_some, here, pure_outcome,
    character_outcome_eq_some, number_outcome_eq_some, Option.some.injEq, Prod.mk.injEq]
  constructor
  · intro found
    obtain ⟨_, _, ⟨rfl, rfl⟩, _, _, ⟨year, years, rfl, rfl⟩, _, _, ⟨rfl, rfl⟩, _, _,
      ⟨month, months, rfl, rfl⟩, _, _, ⟨rfl, rfl⟩, _, _, ⟨day, days, rfl, rfl⟩, rfl, rfl⟩ := found
    exact ⟨_, ⟨year, month, day, years, months, days, rfl⟩, by simp,
      (DayLiteral.at_append years months days _).symm⟩
  · intro found
    obtain ⟨_, ⟨year, month, day, years, months, days, rfl⟩, rfl, rfl⟩ := found
    simp only [List.append_assoc, List.cons_append]
    exact ⟨_, _, ⟨rfl, rfl⟩, _, _, ⟨year, years, rfl, rfl⟩, _, _, ⟨rfl, rfl⟩, _, _,
      ⟨month, months, rfl, rfl⟩, _, _, ⟨rfl, rfl⟩, _, _, ⟨day, days, rfl, rfl⟩,
      (DayLiteral.at_append years months days _).symm, rfl⟩

theorem between_outcome_eq_some {range : Range DayLiteral} {text rest : Place} :
    (between text).outcome = some (range, rest) ↔
      ∃ first last, Date.IsForm first ∧ Date.IsForm last ∧
        text = first ++ ',' :: (last ++ rest) ∧
        range = .between (.at text) (.at (last ++ rest)) := by
  simp only [between, named_outcome, bind_outcome_eq_some, pure_outcome,
    character_outcome_eq_some, dayLiteral_outcome_eq_some, Option.some.injEq, Prod.mk.injEq]
  constructor
  · intro found
    obtain ⟨_, _, ⟨first, firstForm, rfl, rfl⟩, _, _, ⟨rfl, rfl⟩, _, _,
      ⟨last, lastForm, rfl, rfl⟩, rfl, rfl⟩ := found
    exact ⟨first, last, firstForm, lastForm, rfl, rfl⟩
  · intro found
    obtain ⟨first, last, firstForm, lastForm, rfl, rfl⟩ := found
    exact ⟨_, _, ⟨first, firstForm, rfl, rfl⟩, _, _, ⟨rfl, rfl⟩, _, _,
      ⟨last, lastForm, rfl, rfl⟩, rfl, rfl⟩

theorem upTo_outcome_eq_some {range : Range DayLiteral} {text rest : Place} :
    (upTo text).outcome = some (range, rest) ↔
      ∃ last, Date.IsForm last ∧ text = ',' :: (last ++ rest) ∧
        range = .upTo (.at (last ++ rest)) := by
  simp only [upTo, named_outcome, bind_outcome_eq_some, pure_outcome,
    character_outcome_eq_some, dayLiteral_outcome_eq_some, Option.some.injEq, Prod.mk.injEq]
  constructor
  · intro found
    obtain ⟨_, _, ⟨rfl, rfl⟩, _, _, ⟨last, lastForm, rfl, rfl⟩, rfl, rfl⟩ := found
    exact ⟨last, lastForm, rfl, rfl⟩
  · intro found
    obtain ⟨last, lastForm, rfl, rfl⟩ := found
    exact ⟨_, _, ⟨rfl, rfl⟩, _, _, ⟨last, lastForm, rfl, rfl⟩, rfl, rfl⟩

theorem since_outcome_eq_some {range : Range DayLiteral} {text rest : Place} :
    (since text).outcome = some (range, rest) ↔
      ∃ first, Date.IsForm first ∧ text = first ++ ',' :: rest ∧ range = .since (.at text) := by
  simp only [since, named_outcome, bind_outcome_eq_some, pure_outcome,
    character_outcome_eq_some, dayLiteral_outcome_eq_some, Option.some.injEq, Prod.mk.injEq]
  constructor
  · intro found
    obtain ⟨_, _, ⟨first, firstForm, rfl, rfl⟩, _, _, ⟨rfl, rfl⟩, rfl, rfl⟩ := found
    exact ⟨first, firstForm, rfl, rfl⟩
  · intro found
    obtain ⟨first, firstForm, rfl, rfl⟩ := found
    exact ⟨_, _, ⟨first, firstForm, rfl, rfl⟩, _, _, ⟨rfl, rfl⟩, rfl, rfl⟩

def literals (range : Range (List Char)) (rest : Place) : Range DayLiteral :=
  match range with
  | .between first last => .between (.at (first ++ ',' :: (last ++ rest))) (.at (last ++ rest))
  | .upTo last => .upTo (.at (last ++ rest))
  | .since first => .since (.at (first ++ ',' :: rest))

def DayLiteral.digits (literal : DayLiteral) : List Char := literal.place.take 10

theorem DayLiteral.digits_at {day : List Char} (form : Date.IsForm day) (rest : Place) :
    (DayLiteral.at (day ++ rest)).digits = day :=
  List.take_left' form.length

/-- A literal names the day that has its ten characters as text. -/
theorem DayLiteral.date?_at {day : List Char} (form : Date.IsForm day) (rest : Place)
    (date : Date) : (DayLiteral.at (day ++ rest)).date? = some date ↔ date.text = day := by
  obtain ⟨year, month, other, years, months, others, rfl⟩ := form
  simp only [List.append_assoc, List.cons_append, DayLiteral.at_append years months others]
  exact (Date.text_eq_iff years months others date).symm

/-- The numbers of a literal are those of its ten characters, whatever is behind them. -/
theorem DayLiteral.at_of_isForm {day : List Char} (form : Date.IsForm day) (rest other : Place) :
    DayLiteral.at (day ++ other) = { DayLiteral.at (day ++ rest) with place := day ++ other } := by
  obtain ⟨year, month, last, years, months, lasts, rfl⟩ := form
  simp only [List.append_assoc, List.cons_append, DayLiteral.at_append years months lasts]

theorem literals_digits {range : Range (List Char)}
    (forms : ∀ day ∈ range.days, Date.IsForm day) (rest : Place) :
    (literals range rest).map DayLiteral.digits = range := by
  cases range with
  | between first last =>
    have firstForm := forms first List.mem_cons_self
    have lastForm := forms last (List.mem_cons_of_mem _ List.mem_cons_self)
    rw [literals, Range.map, DayLiteral.digits_at firstForm, DayLiteral.digits_at lastForm]
  | upTo last =>
    rw [literals, Range.map, DayLiteral.digits_at (forms last List.mem_cons_self)]
  | since first =>
    rw [literals, Range.map, DayLiteral.digits_at (forms first List.mem_cons_self)]

theorem mem_literals {range : Range (List Char)} (forms : ∀ day ∈ range.days, Date.IsForm day)
    {rest : Place} {literal : DayLiteral} (member : literal ∈ (literals range rest).days) :
    ∃ day behind, Date.IsForm day ∧ literal = .at (day ++ behind) ∧
      day ++ behind <:+ range.inner ++ rest := by
  cases range with
  | between first last =>
    rcases List.mem_cons.1 member with rfl | member
    · refine ⟨first, _, forms first List.mem_cons_self, rfl, ?_⟩
      simp only [Range.inner, List.append_assoc, List.cons_append, List.suffix_refl]
    · refine ⟨last, rest, forms last (List.mem_cons_of_mem _ List.mem_cons_self),
        List.mem_singleton.1 member, ?_⟩
      rw [Range.inner, List.append_assoc, List.cons_append]
      exact (List.suffix_cons ..).trans (List.suffix_append ..)
  | upTo last =>
    refine ⟨last, rest, forms last List.mem_cons_self, List.mem_singleton.1 member, ?_⟩
    exact List.suffix_cons ..
  | since first =>
    refine ⟨first, _, forms first List.mem_cons_self, List.mem_singleton.1 member, ?_⟩
    simp only [Range.inner, List.append_assoc, List.cons_append, List.nil_append,
      List.suffix_refl]

theorem head_of_isForm {day : List Char} (form : Date.IsForm day) :
    ∃ c tail, day = c :: tail ∧ c.isDigit = true := by
  obtain ⟨year, month, other, years, -, -, rfl⟩ := form
  cases year with
  | nil => cases years.1
  | cons c year => exact ⟨c, _, rfl, years.2 c List.mem_cons_self⟩

def rangeBody : Rule (Range DayLiteral) := between <|> upTo <|> since

theorem inner_of_rangeBody {found : Range DayLiteral} {text rest : Place}
    (read : (rangeBody text).outcome = some (found, rest)) :
    ∃ range : Range (List Char), (∀ day ∈ range.days, Date.IsForm day) ∧
      text = range.inner ++ rest ∧ found = literals range rest := by
  simp only [rangeBody, or_outcome, Option.or_eq_some_iff, between_outcome_eq_some,
    upTo_outcome_eq_some, since_outcome_eq_some] at read
  rcases read with ⟨first, last, firstForm, lastForm, rfl, rfl⟩ |
    ⟨-, ⟨last, lastForm, rfl, rfl⟩ | ⟨-, first, firstForm, rfl, rfl⟩⟩
  · refine ⟨.between first last, ?_, by simp [Range.inner], rfl⟩
    simp only [Range.days, List.mem_cons, List.not_mem_nil, or_false]
    intro day member
    rcases member with rfl | rfl
    · exact firstForm
    · exact lastForm
  · exact ⟨.upTo last, fun day only => List.mem_singleton.1 only ▸ lastForm, rfl, rfl⟩
  · exact ⟨.since first, fun day only => List.mem_singleton.1 only ▸ firstForm,
      by simp [Range.inner], rfl⟩

/-- The alternatives exclude each other before a closing parenthesis: a day begins with a digit. -/
theorem rangeBody_inner {range : Range (List Char)} (forms : ∀ day ∈ range.days, Date.IsForm day)
    (rest : Place) :
    (rangeBody (range.inner ++ ')' :: rest)).outcome =
      some (literals range (')' :: rest), ')' :: rest) := by
  cases range with
  | between first last =>
    have read : (between (first ++ ',' :: (last ++ ')' :: rest))).outcome =
        some (_, ')' :: rest) :=
      between_outcome_eq_some.2 ⟨first, last, forms first (by simp [Range.days]),
        forms last (by simp [Range.days]), rfl, rfl⟩
    simp only [Range.inner, List.append_assoc, List.cons_append, rangeBody, or_outcome, read]
    rfl
  | upTo last =>
    have lastForm := forms last (by simp [Range.days])
    -- A day begins with a digit, and the text with the comma.
    have notBetween : (between (',' :: (last ++ ')' :: rest))).outcome = none := by
      apply Option.eq_none_iff_forall_ne_some.2
      intro ⟨found, behind⟩ read
      obtain ⟨first, other, firstForm, -, same, -⟩ := between_outcome_eq_some.1 read
      obtain ⟨c, tail, rfl, digit⟩ := head_of_isForm firstForm
      rw [← List.head_eq_of_cons_eq same] at digit
      exact absurd digit (by decide)
    have read : (upTo (',' :: (last ++ ')' :: rest))).outcome = some (_, ')' :: rest) :=
      upTo_outcome_eq_some.2 ⟨last, lastForm, rfl, rfl⟩
    simp only [Range.inner, List.cons_append, rangeBody, or_outcome, notBetween, read]
    rfl
  | since first =>
    have firstForm := forms first (by simp [Range.days])
    -- Days have one width, so a second one would have to begin at the parenthesis.
    have notBetween : (between (first ++ ',' :: ')' :: rest)).outcome = none := by
      apply Option.eq_none_iff_forall_ne_some.2
      intro ⟨found, behind⟩ read
      obtain ⟨one, other, oneForm, otherForm, same, -⟩ := between_outcome_eq_some.1 read
      have later := List.append_inj_right same (firstForm.length.trans oneForm.length.symm)
      obtain ⟨c, tail, rfl, digit⟩ := head_of_isForm otherForm
      rw [← List.head_eq_of_cons_eq (List.tail_eq_of_cons_eq later)] at digit
      exact absurd digit (by decide)
    have notUpTo : (upTo (first ++ ',' :: ')' :: rest)).outcome = none := by
      apply Option.eq_none_iff_forall_ne_some.2
      intro ⟨found, behind⟩ read
      obtain ⟨last, -, same, -⟩ := upTo_outcome_eq_some.1 read
      obtain ⟨c, tail, rfl, digit⟩ := head_of_isForm firstForm
      rw [List.head_eq_of_cons_eq same] at digit
      exact absurd digit (by decide)
    have read : (since (first ++ ',' :: ')' :: rest)).outcome = some (_, ')' :: rest) :=
      since_outcome_eq_some.2 ⟨first, firstForm, rfl, rfl⟩
    simp only [Range.inner, List.append_assoc, List.cons_append, List.nil_append, rangeBody,
      or_outcome, notBetween, notUpTo, read]
    rfl

def EndsWord (rest : Place) : Prop := ∀ c ∈ rest.head?, Text.isBlank c = true

theorem endOfWord_outcome_eq_some {text rest : Place} {value : Unit} :
    (endOfWord text).outcome = some (value, rest) ↔ EndsWord text ∧ rest = text := by
  constructor
  · intro read
    cases text with
    | nil => cases read; exact ⟨fun c member => (nomatch member), rfl⟩
    | cons c text =>
      simp only [endOfWord] at read
      split at read
      next blank =>
        cases read
        exact ⟨fun d member => Option.some.inj member ▸ blank, rfl⟩
      next => cases read
  · intro found
    obtain ⟨ends, rfl⟩ := found
    cases rest with
    | nil => rfl
    | cons c rest => simp only [endOfWord, if_pos (ends c rfl)]

theorem dayRange_outcome_eq_some {found : Range DayLiteral} {text rest : Place} :
    (dayRange text).outcome = some (found, rest) ↔
      ∃ range word, Range.Writes range word ∧ text = word ++ rest ∧ EndsWord rest ∧
        found = literals range (')' :: rest) := by
  change (named (do
    let _ ← character '('
    let range ← rangeBody
    let _ ← character ')'
    let _ ← endOfWord
    return range) text).outcome = some (found, rest) ↔ _
  simp only [named_outcome, bind_outcome_eq_some, pure_outcome, character_outcome_eq_some,
    endOfWord_outcome_eq_some, Option.some.injEq, Prod.mk.injEq]
  constructor
  · intro found
    obtain ⟨_, _, ⟨rfl, rfl⟩, _, _, read, _, _, ⟨rfl, rfl⟩, _, _, ⟨ends, rfl⟩, rfl, rfl⟩ := found
    obtain ⟨range, forms, rfl, same⟩ := inner_of_rangeBody read
    exact ⟨range, range.form, ⟨rfl, forms⟩, by simp [Range.form], ends, same⟩
  · intro found
    obtain ⟨range, _, ⟨rfl, forms⟩, rfl, ends, rfl⟩ := found
    refine ⟨_, range.inner ++ ')' :: rest, ⟨by simp [Range.form], rfl⟩, _, _,
      rangeBody_inner forms rest, _, _, ⟨rfl, rfl⟩, (), _, ⟨ends, rfl⟩, rfl, rfl⟩

theorem isStrict_of_isAlphanum {c : Char} (inWord : c.isAlphanum = true) : isStrict c = true :=
  Text.forall_ascii (fun c => c.isAlphanum = true → isStrict c = true) (by decide) c
    (Text.ascii_of_isAlphanum inWord) inWord

theorem isStrict_of_isDigit (c : Char) (digit : c.isDigit = true) : isStrict c = true :=
  isStrict_of_isAlphanum (Text.isAlphanum_of_isDigit digit)

theorem within_dayLiteral : Within isStrict dayLiteral :=
  .named (within_here.bind fun _ => (within_number isStrict_of_isDigit 4).bind fun _ =>
    (within_character rfl).bind fun _ => (within_number isStrict_of_isDigit 2).bind fun _ =>
      (within_character rfl).bind fun _ => (within_number isStrict_of_isDigit 2).bind fun _ =>
        .pure _)

theorem within_rangeBody : Within isStrict rangeBody := by
  have comma : Within isStrict (character ',') := within_character rfl
  refine .or (.named ?_) (.or (.named ?_) (.named ?_))
  · exact within_dayLiteral.bind fun _ => comma.bind fun _ => within_dayLiteral.bind fun _ =>
      .pure _
  · exact comma.bind fun _ => within_dayLiteral.bind fun _ => .pure _
  · exact within_dayLiteral.bind fun _ => comma.bind fun _ => .pure _

/-- No attempt to read a range gets behind the bare word that it begins with. -/
theorem within_dayRange : Within isStrict dayRange :=
  .named ((within_character rfl).bind fun _ => within_rangeBody.bind fun _ =>
    (within_character rfl).bind fun _ => within_endOfWord.bind fun _ => .pure _)

theorem Date.isStrict_of_isForm {day : List Char} (form : Date.IsForm day) :
    ∀ c ∈ day, isStrict c = true := by
  obtain ⟨year, month, other, years, months, others, rfl⟩ := form
  intro c member
  simp only [List.mem_append, List.mem_cons] at member
  rcases member with inYear | rfl | inMonth | rfl | inOther
  · exact isStrict_of_isDigit c (years.2 c inYear)
  · decide
  · exact isStrict_of_isDigit c (months.2 c inMonth)
  · decide
  · exact isStrict_of_isDigit c (others.2 c inOther)

theorem isStrict_of_writes {range : Range (List Char)} {word : List Char}
    (writes : range.Writes word) : ∀ c ∈ word, isStrict c = true := by
  obtain ⟨rfl, forms⟩ := writes
  have days : ∀ day ∈ range.days, ∀ c ∈ day, isStrict c = true :=
    fun day member => Date.isStrict_of_isForm (forms day member)
  intro c member
  simp only [Range.form, List.mem_cons, List.mem_append, List.not_mem_nil, or_false] at member
  rcases member with rfl | inside | rfl
  · decide
  · cases range with
    | between first last =>
      simp only [Range.inner, List.mem_append, List.mem_cons] at inside
      rcases inside with inFirst | rfl | inLast
      · exact days first (by simp [Range.days]) c inFirst
      · decide
      · exact days last (by simp [Range.days]) c inLast
    | upTo last =>
      rcases List.mem_cons.1 inside with rfl | inLast
      · decide
      · exact days last (by simp [Range.days]) c inLast
    | since first =>
      simp only [Range.inner, List.mem_append, List.mem_singleton] at inside
      rcases inside with inFirst | rfl
      · exact days first (by simp [Range.days]) c inFirst
      · decide
  · decide

end Query

end PeriodicalSearch
