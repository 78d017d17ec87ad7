import PeriodicalSearch.Proofs.Query.Words

/-! The grammar without its order of choice. `Opens` says which item a text begins with; each
constructor carries what has to hold of the text behind the item, so that no other constructor
applies. An item with which a text opens is read from it, and conversely, except that the name of
a filter without a readable value is read as a term. -/

namespace PeriodicalSearch.Query

open Grammar Rule

/-- The text opens with the value of a filter, and `rest` is behind it. -/
inductive OpensWithValue (comparison : Comparison) :
    Place → FilterValue DayLiteral → Place → Prop where
  | quoted {quote : Char} {text body rest : List Char} (isQuote : IsQuote quote)
      (closed : quotedText quote text = some (body, rest)) :
      OpensWithValue comparison (quote :: text) (.text comparison (String.ofList body)) rest
  | range {range : Range (List Char)} {word rest : List Char} (writes : range.Writes word)
      (ends : EndsWord rest) :
      OpensWithValue comparison (word ++ rest) (.range (literals range (')' :: rest))) rest
  | bare {run rest : List Char} (bare : isBare run = true) (stops : EndsRun rest)
      (noRange : EndsWord rest → ∀ range, ¬ Range.Writes range run) :
      OpensWithValue comparison (run ++ rest) (.text comparison (String.ofList run)) rest

inductive Opens : Place → Item DayLiteral → Place → Prop where
  | quoted {quote : Char} {text body rest : List Char} (isQuote : IsQuote quote)
      (closed : quotedText quote text = some (body, rest)) :
      Opens (quote :: text) (.term (String.ofList body)) rest
  | bare {run rest : List Char} (bare : isBare run = true) (stops : EndsRun rest)
      (noField : ∀ c ∈ rest.head?, ¬ IsDelimiter c) :
      Opens (run ++ rest) (.term (String.ofList run)) rest
  | filter {field gap text rest : List Char} {comparison : Comparison}
      {value : FilterValue DayLiteral} (name : isBare field = true) (blank : Blank gap)
      (opens : OpensWithValue comparison text value rest) :
      Opens (field ++ comparison.delimiter :: (gap ++ text))
        (.filter (String.ofList field) value) rest

theorem reads_dayRange {range : Range (List Char)} {word rest : List Char}
    (writes : range.Writes word) (ends : EndsWord rest) :
    Reads dayRange (word ++ rest) (literals range (')' :: rest)) rest where
  outcome := dayRange_outcome_eq_some.2 ⟨range, word, writes, rfl, ends, rfl⟩
  shorter := by rw [List.length_append]; exact Nat.le_add_left ..
  refused _ refused := (within_dayRange.refused refused).length_le ends.endsRun

theorem refuses_dayRange_of_bare {run rest : List Char} (bare : isBare run = true)
    (stops : EndsRun rest) (noRange : EndsWord rest → ∀ range, ¬ Range.Writes range run) :
    Refuses dayRange (run ++ rest) rest where
  outcome := by
    apply Option.eq_none_iff_forall_ne_some.2
    intro ⟨found, behind⟩ read
    obtain ⟨range, word, writes, same, ends, -⟩ := dayRange_outcome_eq_some.1 read
    obtain ⟨rfl, rfl⟩ := run_unique (isBare_iff.1 bare).2 stops (isStrict_of_writes writes)
      ends.endsRun same
    exact noRange ends range writes
  shorter := by rw [List.length_append]; exact Nat.le_add_left ..
  refused _ refused := (within_dayRange.refused refused).length_le stops

theorem refuses_dayRange_of_quote {quote : Char} (isQuote : IsQuote quote) (text : Place) :
    Refuses dayRange (quote :: text) (quote :: text) := by
  have other : quote ≠ '(' := by rcases isQuote with rfl | rfl <;> decide
  exact ((refuses_character other text).bindFirst _).named

theorem reads_filterValue {comparison : Comparison} {text rest : Place}
    {value : FilterValue DayLiteral} (opens : OpensWithValue comparison text value rest) :
    Reads (filterValue comparison) text value rest := by
  cases opens with
  | quoted isQuote closed =>
    have reads := reads_word_of_quote isQuote closed
    have refuses := (refuses_dayRange_of_quote isQuote _).weaken reads.shorter
    exact .orSecond (refuses.bindFirst _) (reads.bind (.pure _ rest))
  | range writes ends =>
    exact .orFirst _ ((reads_dayRange writes ends).bind (.pure (FilterValue.range _) rest))
  | bare bare stops noRange =>
    have refuses := refuses_dayRange_of_bare bare stops noRange
    exact .orSecond (refuses.bindFirst _) ((reads_word_of_bare bare stops).bind (.pure _ rest))

theorem OpensWithValue.skipBlanks_eq {comparison : Comparison} {text rest : Place}
    {value : FilterValue DayLiteral} (opens : OpensWithValue comparison text value rest) :
    Text.skipBlanks text = text := by
  cases opens with
  | quoted isQuote => exact skipBlanks_of_head isQuote.isBlank_eq_false
  | range writes => exact skipBlanks_of_isBare (isBare_of_writes writes)
  | bare bare => exact skipBlanks_of_isBare bare

theorem Opens.skipBlanks_eq {text rest : Place} {item : Item DayLiteral}
    (opens : Opens text item rest) : Text.skipBlanks text = text := by
  cases opens with
  | quoted isQuote => exact skipBlanks_of_head isQuote.isBlank_eq_false
  | bare bare => exact skipBlanks_of_isBare bare
  | filter name => exact skipBlanks_of_isBare name

theorem reads_delimiter (comparison : Comparison) (rest : Place) :
    Reads delimiter (comparison.delimiter :: rest) comparison rest := by
  cases comparison <;> exact .named (.bind (.ofEq rfl (Nat.le_succ _)) (.pure _ rest))

theorem refuses_delimiter {rest : Place} (noField : ∀ c ∈ rest.head?, ¬ IsDelimiter c) :
    Refuses delimiter rest rest := by
  refine .named (.bindFirst _ (.ofEq ?_))
  cases rest with
  | nil => rfl
  | cons c rest =>
    have noDelimiter : ¬ (c == ':' || c == '=') = true := by
      simpa only [IsDelimiter, Bool.or_eq_true, beq_iff_eq] using noField c rfl
    simp only [oneOf, if_neg noDelimiter]

theorem refuses_filter_of_quote {quote : Char} (isQuote : IsQuote quote) (text : Place) :
    Refuses filter (quote :: text) (quote :: text) :=
  .named (.bindFirst _ (.named ((refuses_run isQuote.isStrict_eq_false text).bindFirst _)))

theorem refuses_filter_of_bare {run rest : List Char} (bare : isBare run = true)
    (stops : EndsRun rest) (noField : ∀ c ∈ rest.head?, ¬ IsDelimiter c) :
    Refuses filter (run ++ rest) rest :=
  .named (.bind (reads_strictWord bare stops) ((refuses_delimiter noField).bindFirst _))

theorem reads_filter {field gap text rest : List Char} {comparison : Comparison}
    {value : FilterValue DayLiteral} (name : isBare field = true) (blank : Blank gap)
    (opens : OpensWithValue comparison text value rest) :
    Reads filter (field ++ comparison.delimiter :: (gap ++ text))
      (.filter (String.ofList field) value) rest := by
  have stops : EndsRun (comparison.delimiter :: (gap ++ text)) :=
    fun c member => Option.some.inj member ▸ isStrict_delimiter comparison
  have skipped : Reads blanks (gap ++ text) () text := by
    refine .ofEq ?_ (by rw [List.length_append]; exact Nat.le_add_left ..)
    rw [blanks, blank.skip, opens.skipBlanks_eq]
  exact .named ((reads_strictWord name stops).bind ((reads_delimiter comparison _).bind
    (skipped.bind ((reads_filterValue opens).bind (.pure (Item.filter _ value) rest)))))

/-- The item with which a text opens is read, and nothing is refused behind it. -/
theorem reads_item {text rest : Place} {found : Item DayLiteral} (opens : Opens text found rest) :
    Reads item text found rest := by
  cases opens with
  | quoted isQuote closed =>
    have reads := reads_word_of_quote isQuote closed
    have refuses := (refuses_filter_of_quote isQuote _).weaken reads.shorter
    exact .orSecond refuses (reads.bind (.pure (Item.term _) rest))
  | bare bare stops noField =>
    have reads := reads_word_of_bare bare stops
    exact .orSecond (refuses_filter_of_bare bare stops noField)
      (reads.bind (.pure (Item.term _) rest))
  | filter name blank opens => exact .orFirst _ (reads_filter name blank opens)

theorem delimiter_outcome_eq_some {comparison : Comparison} {text rest : Place} :
    (delimiter text).outcome = some (comparison, rest) ↔
      text = comparison.delimiter :: rest := by
  cases text with
  | nil => simp [delimiter, named_outcome, bind_outcome, oneOf]
  | cons c text =>
    by_cases colon : c = ':'
    · subst colon
      cases comparison <;>
        simp [delimiter, named_outcome, bind_outcome, oneOf, pure_outcome, Comparison.delimiter]
    · by_cases equals : c = '='
      · subst equals
        cases comparison <;>
          simp [delimiter, named_outcome, bind_outcome, oneOf, pure_outcome, Comparison.delimiter]
      · cases comparison <;>
          simp [delimiter, named_outcome, bind_outcome, oneOf, Comparison.delimiter, colon, equals]

theorem opens_of_filterValue {comparison : Comparison} {text rest : Place}
    {value : FilterValue DayLiteral}
    (read : (filterValue comparison text).outcome = some (value, rest)) :
    OpensWithValue comparison text value rest := by
  simp only [filterValue, or_outcome, Option.or_eq_some_iff, bind_outcome_eq_some, pure_outcome,
    Option.some.injEq, Prod.mk.injEq] at read
  rcases read with ⟨found, _, ranged, rfl, rfl⟩ | ⟨notRange, found, _, worded, rfl, rfl⟩
  · obtain ⟨range, written, writes, rfl, ends, rfl⟩ := dayRange_outcome_eq_some.1 ranged
    exact .range writes ends
  · simp only [word, or_outcome, Option.or_eq_some_iff, quotedWord_outcome_eq_some,
      strictWord_outcome_eq_some] at worded
    rcases worded with ⟨tail, body, rfl, closed, rfl⟩ |
      ⟨-, ⟨tail, body, rfl, closed, rfl⟩ | ⟨-, characters, bare, stops, rfl, rfl⟩⟩
    · exact .quoted (.inl rfl) closed
    · exact .quoted (.inr rfl) closed
    · apply OpensWithValue.bare bare stops
      intro ends range writes
      rw [bind_outcome, (reads_dayRange writes ends).outcome] at notRange
      cases notRange

theorem opens_of_filter {text rest : Place} {found : Item DayLiteral}
    (read : (filter text).outcome = some (found, rest)) : Opens text found rest := by
  simp only [filter, field, named_outcome, bind_outcome_eq_some, strictWord_outcome_eq_some,
    delimiter_outcome_eq_some, pure_outcome, Option.some.injEq, Prod.mk.injEq] at read
  obtain ⟨_, _, ⟨name, bare, -, rfl, rfl⟩, comparison, behind, rfl, _, _, skipped, value, _,
    read, rfl, rfl⟩ := read
  cases skipped
  have split := List.takeWhile_append_dropWhile (p := Text.isBlank) (l := behind)
  rw [← split]
  exact .filter bare (List.all_eq_true.1 List.all_takeWhile) (opens_of_filterValue read)

/-- What is read as an item opens the text, unless it is the name of a filter whose value could
not be read; then the delimiter is still to come. -/
theorem opens_of_item {text rest : Place} {found : Item DayLiteral}
    (read : (item text).outcome = some (found, rest)) :
    Opens text found rest ∨ ∃ c ∈ rest.head?, IsDelimiter c := by
  simp only [item, or_outcome, Option.or_eq_some_iff, bind_outcome_eq_some, pure_outcome,
    Option.some.injEq, Prod.mk.injEq, word, quotedWord_outcome_eq_some,
    strictWord_outcome_eq_some] at read
  rcases read with filtered | ⟨-, value, behind, ⟨tail, body, rfl, closed, rfl⟩ |
    ⟨-, ⟨tail, body, rfl, closed, rfl⟩ | ⟨-, characters, bare, stops, rfl, rfl⟩⟩, rfl, rfl⟩
  · exact .inl (opens_of_filter filtered)
  · exact .inl (.quoted (.inl rfl) closed)
  · exact .inl (.quoted (.inr rfl) closed)
  · by_cases delimited : ∃ c ∈ behind.head?, IsDelimiter c
    · exact .inr delimited
    · exact .inl (.bare bare stops fun c member delimiter => delimited ⟨c, member, delimiter⟩)

end PeriodicalSearch.Query
