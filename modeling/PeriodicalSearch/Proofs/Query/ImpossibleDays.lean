import PeriodicalSearch.Proofs.Query.ViablePrefix

/-! Days that the calendar lacks. Which days of a text are looked up can be told from the text
alone: those of a range in parentheses that is a whole word, behind a delimiter that no quote
encloses. They are looked up in the order in which they stand in the text, whether or not a later
filter of the same field replaces the range, and the first one that the calendar lacks is the fault
of the text. -/

namespace PeriodicalSearch

def Date.IsReal (text : List Char) : Prop := ∃ date : Date, date.HasPlainYear ∧ date.text = text

inductive Range.HasDay : Range (List Char) → List Char → List Char → List Char → Prop where
  | first (first last : List Char) :
      HasDay (.between first last) ['('] first (',' :: (last ++ [')']))
  | last (first last : List Char) :
      HasDay (.between first last) ('(' :: (first ++ [','])) last [')']
  | upTo (last : List Char) : HasDay (.upTo last) ['(', ','] last [')']
  | since (first : List Char) : HasDay (.since first) ['('] first [',', ')']

theorem Range.HasDay.form_eq {range : Range (List Char)} {before day after : List Char}
    (has : range.HasDay before day after) : range.form = before ++ (day ++ after) := by
  cases has <;> simp [form, inner]

theorem Range.HasDay.mem_days {range : Range (List Char)} {before day after : List Char}
    (has : range.HasDay before day after) : day ∈ range.days := by
  cases has <;> simp [days]

namespace Query

/-- The value of a filter comes next: there is a delimiter that no quote encloses, and nothing but
blanks behind it. -/
def AwaitsValue (before : List Char) : Prop :=
  ∃ left sign gap, before = left ++ sign :: gap ∧ (∀ place, ¬ LeavesOpen left place) ∧
    IsDelimiter sign ∧ Blank gap

inductive InRangeFilter : List Char → List Char → List Char → Prop where
  | mk {front inFront day behind rest : List Char} {range : Range (List Char)}
      (awaits : AwaitsValue front) (has : range.HasDay inFront day behind)
      (forms : ∀ day ∈ range.days, Date.IsForm day) (ends : EndsWord rest) :
      InRangeFilter (front ++ inFront) day (behind ++ rest)

/-- Behind `before` the text has a day in a range that is the value of a filter. -/
structure HasRangeDay (text before day behind : String) : Prop where
  split : text = before ++ day ++ behind
  ranged : InRangeFilter before.toList day.toList behind.toList

theorem InRangeFilter.isForm {before day behind : List Char}
    (ranged : InRangeFilter before day behind) : Date.IsForm day := by
  cases ranged with
  | mk awaits has forms ends => exact forms day has.mem_days

theorem unclosedQuote_eq_none_iff {text : List Char} :
    unclosedQuote text = none ↔ ∀ place, ¬ LeavesOpen text place := by
  simp only [Option.eq_none_iff_forall_ne_some, ne_eq, unclosedQuote_eq_some_iff]

theorem BeginsLike.of_append (front back : List Char) : BeginsLike (front ++ back) front := by
  cases front with
  | nil => exact .nil _
  | cons c front => exact .cons c _ _

theorem split_behind {run rest left more : List Char} {sign : Char} (noSign : sign ∉ run)
    (split : run ++ rest = left ++ sign :: more) :
    ∃ later, left = run ++ later ∧ rest = later ++ sign :: more := by
  rcases List.append_eq_append_iff.1 split with ⟨later, same, behind⟩ | ⟨later, same, behind⟩
  · exact ⟨later, same, behind⟩
  · cases later with
    | nil => exact ⟨[], by simpa using same.symm, by simpa using behind.symm⟩
    | cons c later =>
      have inside : c ∈ run := same ▸ List.mem_append_right _ List.mem_cons_self
      exact absurd ((List.cons.inj behind).1 ▸ inside) noSign

theorem Blank.not_mem_of_isDelimiter {gap : List Char} {sign : Char} (blank : Blank gap)
    (delimiter : IsDelimiter sign) : sign ∉ gap := fun member =>
  not_isDelimiter_of_isBlank (blank sign member) delimiter

theorem not_mem_of_isBare {run : List Char} {sign : Char} (bare : isBare run = true)
    (delimiter : IsDelimiter sign) : sign ∉ run := fun member =>
  (isStrict_eq_true_iff.1 ((isBare_iff.1 bare).2 sign member)).2.2 delimiter

section

variable {text rest left more : List Char} {sign : Char} (delimiter : IsDelimiter sign)
  (closed : unclosedQuote left = none)
include delimiter closed

/-- A sign in a quoted text is enclosed by its quotes. -/
theorem split_behind_quoted {quote : Char} {body : List Char} (isQuote : IsQuote quote)
    (read : quotedText quote text = some (body, rest))
    (split : quote :: text = left ++ sign :: more) :
    ∃ later, rest = later ++ sign :: more ∧ unclosedQuote later = none := by
  cases left with
  | nil =>
    cases split
    exact absurd delimiter isQuote.not_isDelimiter
  | cons c inside =>
    obtain ⟨rfl, rfl⟩ := List.cons.inj split
    cases found : behindQuote quote inside with
    | none =>
      rw [unclosedQuote_of_open isQuote found] at closed
      cases closed
    | some later =>
      obtain ⟨own, closes⟩ := closes_of_behindQuote found
      have whole := (closes.append (sign :: more)).quotedText_eq isQuote
      cases read.symm.trans whole
      rw [unclosedQuote_of_quotedText isQuote (closes.quotedText_eq isQuote)] at closed
      exact ⟨later, rfl, closed⟩

theorem split_behind_bare {run : List Char} (bare : isBare run = true)
    (split : run ++ rest = left ++ sign :: more) :
    ∃ later, rest = later ++ sign :: more ∧ unclosedQuote later = none := by
  obtain ⟨later, rfl, behind⟩ := split_behind (not_mem_of_isBare bare delimiter) split
  rw [unclosedQuote_of_unquoted (unquoted_of_isBare bare)] at closed
  exact ⟨later, behind, closed⟩

theorem OpensWithValue.split_behind {comparison : Comparison} {value : FilterValue DayLiteral}
    (opens : OpensWithValue comparison text value rest) (split : text = left ++ sign :: more) :
    ∃ later, rest = later ++ sign :: more ∧ unclosedQuote later = none := by
  cases opens with
  | quoted isQuote read => exact split_behind_quoted delimiter closed isQuote read split
  | range writes => exact split_behind_bare delimiter closed (isBare_of_writes writes) split
  | bare bare => exact split_behind_bare delimiter closed bare split

/-- A delimiter that no quote encloses is behind an item, or it is the one between the field and the
value of the item. -/
theorem Opens.split_behind {item : Item DayLiteral} (opens : Opens text item rest)
    (split : text = left ++ sign :: more) :
    (∃ later, rest = later ++ sign :: more ∧ unclosedQuote later = none) ∨
      ∃ field comparison gap tail value, item = .filter field value ∧ Blank gap ∧
        more = gap ++ tail ∧ OpensWithValue comparison tail value rest := by
  cases opens with
  | quoted isQuote read => exact .inl (split_behind_quoted delimiter closed isQuote read split)
  | bare bare => exact .inl (split_behind_bare delimiter closed bare split)
  | @filter field gap tail rest comparison value name blank opens =>
    obtain ⟨later, rfl, behind⟩ := Query.split_behind (not_mem_of_isBare name delimiter) split
    rw [unclosedQuote_of_unquoted (unquoted_of_isBare name)] at closed
    cases later with
    | nil =>
      cases behind
      exact .inr ⟨_, comparison, gap, tail, value, rfl, blank, rfl, opens⟩
    | cons c later =>
      obtain ⟨rfl, tails⟩ := List.cons.inj behind
      rw [unclosedQuote_delimiter] at closed
      obtain ⟨last, rfl, inValue⟩ :=
        Query.split_behind (blank.not_mem_of_isDelimiter delimiter) tails
      rw [unclosedQuote_of_unquoted blank.unquoted] at closed
      exact .inl (opens.split_behind delimiter closed inValue)

end

theorem Opens.awaitsValue {text rest front more : List Char} {item : Item DayLiteral}
    (opens : Opens text item rest) (split : rest = front ++ more) (awaits : AwaitsValue front) :
    ∃ before, text = before ++ rest ∧ AwaitsValue (before ++ front) := by
  obtain ⟨left, sign, gap, rfl, closed, delimiter, blank⟩ := awaits
  obtain ⟨before, whole, keeps⟩ := opens.exists_before
  have like : BeginsLike rest left := by
    rw [split, List.append_assoc]
    exact .of_append left _
  obtain ⟨other, shorter⟩ := keeps left like
  refine ⟨before, whole, before ++ left, sign, gap, (List.append_assoc ..).symm, ?_, delimiter,
    blank⟩
  rw [← unclosedQuote_eq_none_iff] at closed ⊢
  rw [shorter.unclosedQuote_eq, closed]

theorem AwaitsValue.prepend {gap front : List Char} (blank : Blank gap)
    (awaits : AwaitsValue front) : AwaitsValue (gap ++ front) := by
  obtain ⟨left, sign, behind, rfl, closed, delimiter, later⟩ := awaits
  refine ⟨gap ++ left, sign, behind, (List.append_assoc ..).symm, ?_, delimiter, later⟩
  rw [← unclosedQuote_eq_none_iff] at closed ⊢
  rw [unclosedQuote_of_unquoted blank.unquoted, closed]

theorem OpensWithValue.eq_range {comparison : Comparison} {word behind rest : List Char}
    {value : FilterValue DayLiteral} {range : Range (List Char)} (writes : range.Writes word)
    (ends : EndsWord behind) (opens : OpensWithValue comparison (word ++ behind) value rest) :
    value = .range (literals range (')' :: behind)) := by
  have ranged : OpensWithValue comparison (word ++ behind) _ behind := .range writes ends
  cases (reads_filterValue opens).outcome.symm.trans (reads_filterValue ranged).outcome
  rfl

/-- The ranges that are read in a text are those that stand in it as values of filters. -/
theorem ConsistsOf.mem_range_iff {text : Place} {items : List (Item DayLiteral)}
    (consists : ConsistsOf text items) {found : Range DayLiteral} :
    (∃ field, .filter field (.range found) ∈ items) ↔
      ∃ front range word rest, text = front ++ (word ++ rest) ∧ AwaitsValue front ∧
        Range.Writes range word ∧ EndsWord rest ∧ found = literals range (')' :: rest) := by
  constructor
  · rintro ⟨field, member⟩
    induction consists with
    | nil => cases member
    | @cons gap text rest item items blank opens others step =>
      rcases List.mem_cons.1 member with rfl | later
      · cases opens with
        | @filter field between tail rest comparison value name spaced opens =>
          cases opens with
          | @range range word rest writes ends =>
            refine ⟨gap ++ (field ++ comparison.delimiter :: between), range, word, rest, ?_, ?_,
              writes, ends, rfl⟩
            · simp only [List.append_assoc, List.cons_append]
            · refine .prepend blank ⟨field, comparison.delimiter, between, rfl, ?_,
                isDelimiter_delimiter comparison, spaced⟩
              rw [← unclosedQuote_eq_none_iff, ← List.append_nil field,
                unclosedQuote_of_unquoted (unquoted_of_isBare name), unclosedQuote]
      · obtain ⟨front, range, word, behind, split, awaits, found⟩ := step later
        obtain ⟨before, whole, awaits⟩ := opens.awaitsValue split awaits
        refine ⟨gap ++ (before ++ front), range, word, behind, ?_, awaits.prepend blank, found⟩
        rw [whole, split, List.append_assoc, List.append_assoc]
  · rintro ⟨front, range, word, behind, split, ⟨left, sign, between, rfl, closed, delimiter,
      spaced⟩, writes, ends, rfl⟩
    rw [List.append_assoc, List.cons_append] at split
    rw [← unclosedQuote_eq_none_iff] at closed
    -- Item by item the text before the delimiter is used up. The delimiter stands in no quote, so
    -- the item in which it is met is a filter, and the range is the value of that filter.
    induction consists generalizing left with
    | nil blank =>
      have inside : sign ∈ left ++ sign :: (between ++ (word ++ behind)) := by simp
      exact absurd (split ▸ inside) (blank.not_mem_of_isDelimiter delimiter)
    | @cons gap text rest item items blank opens others step =>
      obtain ⟨later, rfl, tails⟩ := split_behind (blank.not_mem_of_isDelimiter delimiter) split
      rw [unclosedQuote_of_unquoted blank.unquoted] at closed
      rcases opens.split_behind delimiter closed tails with ⟨last, same, closed⟩ |
        ⟨field, comparison, gap, tail, value, rfl, gapBlank, same, opens⟩
      · obtain ⟨field, member⟩ := step last same closed
        exact ⟨field, List.mem_cons_of_mem _ member⟩
      · have inked : Text.skipBlanks (word ++ behind) = word ++ behind :=
          skipBlanks_of_isBare (isBare_of_writes writes)
        have skipped := congrArg Text.skipBlanks same
        rw [spaced.skip, gapBlank.skip, inked, opens.skipBlanks_eq] at skipped
        rw [← skipped] at opens
        exact ⟨field, opens.eq_range writes ends ▸ List.mem_cons_self⟩

theorem mem_literals_iff {range : Range (List Char)} {rest : Place} {literal : DayLiteral} :
    literal ∈ (literals range (')' :: rest)).days ↔
      ∃ before day after, range.HasDay before day after ∧
        literal = .at (day ++ (after ++ rest)) := by
  constructor
  · intro member
    cases range with
    | between first last =>
      rcases List.mem_cons.1 member with rfl | member
      · exact ⟨_, _, _, .first first last, by simp⟩
      · exact ⟨_, _, _, .last first last, List.mem_singleton.1 member⟩
    | upTo last => exact ⟨_, _, _, .upTo last, List.mem_singleton.1 member⟩
    | since first => exact ⟨_, _, _, .since first, List.mem_singleton.1 member⟩
  · rintro ⟨before, day, after, has, rfl⟩
    cases has <;> simp [literals, Range.days]

/-- The days that are looked up are those that stand in ranges of filters. -/
theorem ConsistsOf.mem_days_iff {text : Place} {items : List (Item DayLiteral)}
    (consists : ConsistsOf text items) {literal : DayLiteral} :
    literal ∈ items.flatMap Item.days ↔ ∃ before day behind, text = before ++ (day ++ behind) ∧
      InRangeFilter before day behind ∧ literal = .at (day ++ behind) := by
  constructor
  · intro member
    obtain ⟨item, inside, member⟩ := List.mem_flatMap.1 member
    cases item with
    | term => cases member
    | filter field value =>
      cases value with
      | text => cases member
      | range found =>
        obtain ⟨front, range, word, rest, rfl, awaits, ⟨rfl, forms⟩, ends, rfl⟩ :=
          consists.mem_range_iff.1 ⟨field, inside⟩
        obtain ⟨before, day, after, has, rfl⟩ := mem_literals_iff.1 member
        refine ⟨front ++ before, day, after ++ rest, ?_, .mk awaits has forms ends, rfl⟩
        rw [has.form_eq]
        simp only [List.append_assoc]
  · rintro ⟨_, day, _, rfl, ranged, rfl⟩
    cases ranged with
    | @mk front before _ after rest range awaits has forms ends =>
      obtain ⟨field, inside⟩ := consists.mem_range_iff.2
        ⟨front, range, range.form, rest, by rw [has.form_eq]; simp only [List.append_assoc],
          awaits, ⟨rfl, forms⟩, ends, rfl⟩
      exact List.mem_flatMap.2 ⟨_, inside, mem_literals_iff.2 ⟨before, day, after, has, rfl⟩⟩

theorem DayLiteral.date?_at_eq_none_iff {day : List Char} (form : Date.IsForm day) (rest : Place) :
    (DayLiteral.at (day ++ rest)).date? = none ↔ ¬ Date.IsReal day := by
  rw [Option.eq_none_iff_forall_ne_some]
  constructor
  · rintro none ⟨date, -, same⟩
    exact none date ((DayLiteral.date?_at form rest date).2 same)
  · intro unreal date found
    have same := (DayLiteral.date?_at form rest date).1 found
    exact unreal ⟨date, Date.hasPlainYear_of_isForm (same ▸ form), same⟩

def DayLiteral.Before (literal other : DayLiteral) : Prop :=
  other.place.length < literal.place.length

theorem Opens.days_before {text rest : Place} {item : Item DayLiteral}
    (opens : Opens text item rest) : item.days.Pairwise DayLiteral.Before ∧
      ∀ literal ∈ item.days, rest.length < literal.place.length := by
  have none : ([] : List DayLiteral).Pairwise DayLiteral.Before ∧
      ∀ literal ∈ ([] : List DayLiteral), rest.length < literal.place.length :=
    ⟨List.Pairwise.nil, fun literal member => nomatch member⟩
  cases opens with
  | quoted => exact none
  | bare => exact none
  | filter name blank opens =>
    cases opens with
    | quoted => exact none
    | bare => exact none
    | @range range word rest writes ends =>
      constructor
      · cases range with
        | between first last =>
          refine List.pairwise_pair.2 ?_
          simp only [DayLiteral.Before, DayLiteral.at, List.length_append, List.length_cons]
          omega
        | upTo last => exact List.pairwise_singleton _ _
        | since first => exact List.pairwise_singleton _ _
      · intro literal member
        obtain ⟨before, day, after, has, rfl⟩ := mem_literals_iff.1 member
        have closing : 0 < after.length := by cases has <;> simp
        simp only [DayLiteral.at, List.length_append]
        omega

/-- The days are looked up in the order of the text. -/
theorem ConsistsOf.days_before {text : Place} {items : List (Item DayLiteral)}
    (consists : ConsistsOf text items) : (items.flatMap Item.days).Pairwise DayLiteral.Before := by
  induction consists with
  | nil => exact List.Pairwise.nil
  | cons blank opens others step =>
    rw [List.flatMap_cons]
    refine List.pairwise_append.2 ⟨opens.days_before.1, step, fun literal member other later => ?_⟩
    obtain ⟨before, day, behind, rfl, -, rfl⟩ := others.mem_days_iff.1 later
    have within := opens.days_before.2 literal member
    simp only [List.length_append] at within
    simp only [DayLiteral.Before, DayLiteral.at, List.length_append]
    omega

theorem date?_of_before {literals : List DayLiteral}
    (ordered : literals.Pairwise DayLiteral.Before) {literal other : DayLiteral}
    (first : impossibleDay? literals = some literal) (member : other ∈ literals)
    (before : other.Before literal) : other.date? ≠ none := by
  obtain ⟨-, early, late, rfl, possible⟩ := List.find?_eq_some_iff_append.1 first
  rcases List.mem_append.1 member with isEarly | isLate
  · simpa [Option.isSome_iff_ne_none] using possible other isEarly
  · rcases List.mem_cons.1 isLate with rfl | later
    · exact absurd before (Nat.lt_irrefl _)
    · have behind := (List.pairwise_cons.1 (List.pairwise_append.1 ordered).2.1).1 other later
      exact absurd before (Nat.lt_asymm behind)

theorem hasRangeDay_iff {text : String} {items : List (Item DayLiteral)}
    (consists : ConsistsOf text.toList items) {before day behind : String} :
    HasRangeDay text before day behind ↔ text = before ++ day ++ behind ∧
      Date.IsForm day.toList ∧
        DayLiteral.at (day.toList ++ behind.toList) ∈ items.flatMap Item.days := by
  constructor
  · intro has
    refine ⟨has.split, has.ranged.isForm, consists.mem_days_iff.2 ⟨before.toList, day.toList,
      behind.toList, ?_, has.ranged, rfl⟩⟩
    rw [has.split, String.toList_append, String.toList_append, List.append_assoc]
  · rintro ⟨split, form, member⟩
    refine ⟨split, ?_⟩
    obtain ⟨front, other, rest, same, ranged, literal⟩ := consists.mem_days_iff.1 member
    have place : day.toList ++ behind.toList = other ++ rest := congrArg DayLiteral.place literal
    have width := form.length.trans ranged.isForm.length.symm
    obtain ⟨rfl, rfl⟩ := List.append_inj place width
    rw [split, String.toList_append, String.toList_append, List.append_assoc] at same
    rwa [List.append_cancel_right same]

theorem utf8ByteSize_of_isForm {day : String} (form : Date.IsForm day.toList) :
    day.utf8ByteSize = 10 := by
  rw [Text.utf8ByteSize_eq, Text.utf8Length_of_ascii, form.length]
  intro c member
  obtain ⟨year, month, other, years, months, others, split⟩ := form
  have digit : ∀ {c : Char}, c.isDigit = true → c.toNat < 0x80 := fun digit =>
    Text.ascii_of_isAlphanum (Text.isAlphanum_of_isDigit digit)
  rw [split] at member
  simp only [List.mem_append, List.mem_cons] at member
  rcases member with inYear | rfl | inMonth | rfl | inDay
  · exact digit (years.2 c inYear)
  · decide
  · exact digit (months.2 c inMonth)
  · decide
  · exact digit (others.2 c inDay)

/-- Of two places of a text the one with fewer octets before it leaves more of the text. -/
theorem length_lt_of_octets {text before place earlier other : List Char}
    (split : text = before ++ place) (splitEarlier : text = earlier ++ other)
    (octets : Text.utf8Length earlier < Text.utf8Length before) : place.length < other.length := by
  by_contra longer
  have lengths := congrArg List.length (split.symm.trans splitEarlier)
  rw [List.length_append, List.length_append] at lengths
  obtain ⟨between, rfl⟩ : before <+: earlier :=
    List.prefix_of_prefix_length_le (split ▸ List.prefix_append ..)
      (splitEarlier ▸ List.prefix_append ..) (by omega)
  rw [Text.utf8Length_append] at octets
  omega

/-- The day stands in a range that is the value of a filter and is missing from the calendar, but no
such day before it is. -/
structure IsFirstImpossible (text before day behind : String) : Prop where
  has : HasRangeDay text before day behind
  unreal : ¬ Date.IsReal day.toList
  first : ∀ earlier other later, HasRangeDay text earlier other later →
    earlier.utf8ByteSize < before.utf8ByteSize → Date.IsReal other.toList

section

variable {text : String} {items : List (Item DayLiteral)} (consists : ConsistsOf text.toList items)
include consists

theorem isFirstImpossible_of_impossibleDay? {literal : DayLiteral}
    (first : impossibleDay? (items.flatMap Item.days) = some literal) :
    ∃ before day behind, IsFirstImpossible text before day behind ∧
      impossibleFault text.toList literal = .impossibleDate day before.utf8ByteSize := by
  obtain ⟨before, day, behind, split, ranged, rfl⟩ :=
    consists.mem_days_iff.1 (List.mem_of_find?_eq_some first)
  have form := ranged.isForm
  have lacks : (DayLiteral.at (day ++ behind)).date? = none := by
    simpa using List.find?_some first
  have whole : text = String.ofList before ++ String.ofList day ++ String.ofList behind := by
    rw [← String.ofList_append, ← String.ofList_append, List.append_assoc, ← split,
      String.ofList_toList]
  refine ⟨.ofList before, .ofList day, .ofList behind, ⟨⟨whole, ?_⟩, ?_, ?_⟩, ?_⟩
  · simpa only [String.toList_ofList] using ranged
  · rw [String.toList_ofList]
    exact (DayLiteral.date?_at_eq_none_iff form behind).1 lacks
  · intro earlier other later has octets
    obtain ⟨same, otherForm, member⟩ := (hasRangeDay_iff consists).1 has
    rw [Text.utf8ByteSize_ofList, Text.utf8ByteSize_eq] at octets
    have inText : text.toList = earlier.toList ++ (other.toList ++ later.toList) := by
      rw [same, String.toList_append, String.toList_append, List.append_assoc]
    have possible := date?_of_before consists.days_before first member
      (length_lt_of_octets split inText octets)
    rwa [ne_eq, DayLiteral.date?_at_eq_none_iff otherForm, not_not] at possible
  · have shown : (DayLiteral.at (day ++ behind)).text = String.ofList day :=
      congrArg String.ofList (DayLiteral.digits_at form behind)
    have octets : position text.toList (DayLiteral.at (day ++ behind)).place =
        Text.utf8Length before := by
      rw [split]
      exact position_append_right before (day ++ behind)
    rw [impossibleFault, shown, octets, Text.utf8ByteSize_ofList]

variable (short : text.utf8ByteSize ≤ maxLength)
include short

theorem parse_eq_error_iff_of_consistsOf {fault : Fault} : parse text = .error fault ↔
    ∃ literal, impossibleDay? (items.flatMap Item.days) = some literal ∧
      fault = impossibleFault text.toList literal := by
  rw [parse_eq_error_iff short]
  constructor
  · rintro (⟨place, refused, -⟩ | ⟨others, literal, same, first, rfl⟩)
    · exact absurd consists ((readItems_eq_error_iff.1 refused).not_consistsOf items)
    · cases (readItems_eq_ok_iff.2 consists).symm.trans (readItems_eq_ok_iff.2 same)
      exact ⟨literal, first, rfl⟩
  · rintro ⟨literal, first, rfl⟩
    exact .inr ⟨items, literal, consists, first, rfl⟩

theorem isFirstImpossible_of_parse {fault : Fault} (failed : parse text = .error fault) :
    ∃ before day behind, IsFirstImpossible text before day behind ∧
      fault = .impossibleDate day before.utf8ByteSize := by
  obtain ⟨literal, first, rfl⟩ := (parse_eq_error_iff_of_consistsOf consists short).1 failed
  exact isFirstImpossible_of_impossibleDay? consists first

theorem parse_fails_of_hasRangeDay {before day behind : String}
    (has : HasRangeDay text before day behind) (unreal : ¬ Date.IsReal day.toList) :
    ∃ fault, parse text = .error fault := by
  obtain ⟨-, form, member⟩ := (hasRangeDay_iff consists).1 has
  have lacks := (DayLiteral.date?_at_eq_none_iff form behind.toList).2 unreal
  cases first : impossibleDay? (items.flatMap Item.days) with
  | some literal =>
    exact ⟨_, (parse_eq_error_iff_of_consistsOf consists short).2 ⟨literal, first, rfl⟩⟩
  | none =>
    have possible := List.find?_eq_none.1 first _ member
    rw [lacks] at possible
    exact absurd rfl possible

end

/-- A text whose length and grammar have no fault is rejected exactly when one of its days in a
range that is the value of a filter is missing from the calendar. The fault is the first of these
days in the order of the text: the reason names its ten octets, and the position is where they
stand. -/
theorem parse_fails_at_first_impossible_day {text : String} (grammatical : Grammatical text) :
    ((∃ fault, parse text = .error fault) ↔
      ∃ before day behind, HasRangeDay text before day behind ∧ ¬ Date.IsReal day.toList) ∧
    ∀ fault, parse text = .error fault →
      ∃ before day behind, IsFirstImpossible text before day behind ∧ day.utf8ByteSize = 10 ∧
        fault.reason = "invalid date '" ++ day ++ "': input is out of range" ∧
        fault.position? = some before.utf8ByteSize := by
  obtain ⟨short, items, consists⟩ := grammatical_iff.1 grammatical
  refine ⟨⟨fun ⟨fault, failed⟩ => ?_, fun ⟨before, day, behind, has, unreal⟩ => ?_⟩,
    fun fault failed => ?_⟩
  · obtain ⟨before, day, behind, first, -⟩ := isFirstImpossible_of_parse consists short failed
    exact ⟨before, day, behind, first.has, first.unreal⟩
  · exact parse_fails_of_hasRangeDay consists short has unreal
  · obtain ⟨before, day, behind, first, rfl⟩ := isFirstImpossible_of_parse consists short failed
    exact ⟨before, day, behind, first, utf8ByteSize_of_isForm first.has.ranged.isForm, rfl, rfl⟩

/-- The last day of February of a common year, behind 18 octets of which two are one letter, is not
overlooked because the field gets another value later. -/
theorem parse_fails_at_first_impossible_day_overwritten :
    ∃ before day behind,
      IsFirstImpossible "é at:(2020-02-29,2021-02-29) at:x" before day behind ∧
        day = "2021-02-29" ∧ before.utf8ByteSize = 18 := by
  have failed : parse "é at:(2020-02-29,2021-02-29) at:x" =
      .error (.impossibleDate "2021-02-29" 18) := by cbv
  obtain ⟨before, day, behind, first, -, reason, position⟩ :=
    (parse_fails_at_first_impossible_day (.inr ⟨_, _, failed⟩)).2 _ failed
  have named : "invalid date '" ++ "2021-02-29" ++ "': input is out of range" =
      "invalid date '" ++ day ++ "': input is out of range" := reason
  rw [String.append_left_inj, String.append_right_inj] at named
  exact ⟨before, day, behind, first, named.symm, (Option.some.inj position).symm⟩

-- In terms, quoted values and words that are no ranges the calendar is not asked.
example : (parse "(2021-02-29,) at:'(2021-02-29,)' on:(2021-02-29,)x").isOk = true := by cbv

end Query

end PeriodicalSearch
