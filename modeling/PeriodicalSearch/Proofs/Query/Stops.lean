import PeriodicalSearch.Proofs.Query.Items

/-! Where the reading of a text stops. It stops where a term or the value of a filter should begin
and neither does: at the end of the text, at a delimiter, or at a quote that is not closed. This is
also the furthest place at which a rule was refused, since no attempt within an item gets behind the
item, and a filter without a value is refused where the value is missing. -/

namespace PeriodicalSearch.Query

open Grammar Rule

namespace Rule

variable {α β : Type}

/-- The rule does not read the text, and `place` is the furthest place at which it was refused. -/
structure RefusesAt (rule : Rule α) (text place : Place) : Prop where
  outcome : (rule text).outcome = none
  refused : (rule text).refused = some place
  shorter : place.length ≤ text.length

theorem furthest_self (place : Place) : furthest (some place) place = place :=
  furthest_of_le fun _ same => Nat.le_of_eq (congrArg List.length (Option.some.inj same))

theorem furthest_of_lt {place other : Place} (further : place.length < other.length) :
    furthest (some place) other = place := by
  simp only [furthest, if_pos further]

theorem refused_bind {first : Rule α} {next : α → Rule β} {text middle : Place} {one : α}
    (read : (first text).outcome = some (one, middle)) :
    ((first >>= next) text).refused = further (first text).refused (next one middle).refused := by
  change (andThen first next text).refused = _
  unfold andThen
  split
  next outcome => rw [outcome] at read; cases read
  next outcome => rw [outcome] at read ⊢; cases read; rfl

theorem refused_or {first second : Rule α} {text : Place} (none : (first text).outcome = none) :
    ((first <|> second) text).refused = further (first text).refused (second text).refused := by
  change (orElse first second text).refused = _
  unfold orElse
  split
  next outcome => rw [outcome] at none; cases none
  next outcome => rw [outcome]

theorem RefusesAt.refuses {rule : Rule α} {text place : Place} (at_ : RefusesAt rule text place) :
    Refuses rule text place where
  outcome := at_.outcome
  shorter := at_.shorter
  refused other found := by
    rw [at_.refused] at found
    exact Nat.le_of_eq (congrArg List.length (Option.some.inj found))

/-- A rule under a name that is not refused behind its beginning is refused there. -/
theorem Refuses.refusesAt_named {rule : Rule α} {text : Place}
    (refuses : Refuses rule text text) : RefusesAt (Rule.named rule) text text where
  outcome := refuses.named.outcome
  refused := by
    have noted := furthest_of_le refuses.refused
    unfold Rule.named
    split
    next outcome => have none := refuses.outcome; rw [outcome] at none; cases none
    next outcome => rw [outcome] at noted; rw [noted]
  shorter := Nat.le_refl _

theorem RefusesAt.named {rule : Rule α} {text place : Place} (at_ : RefusesAt rule text place)
    (behind : place.length < text.length) : RefusesAt (Rule.named rule) text place where
  outcome := at_.refuses.named.outcome
  refused := by
    have noted := at_.refused
    unfold Rule.named
    split
    next outcome => have none := at_.outcome; rw [outcome] at none; cases none
    next outcome => rw [outcome] at noted; cases noted; rw [furthest_of_lt behind]
  shorter := at_.shorter

theorem RefusesAt.bind {first : Rule α} {next : α → Rule β} {text middle place : Place} {one : α}
    (before : Reads first text one middle) (after : RefusesAt (next one) middle place) :
    RefusesAt (first >>= next) text place where
  outcome := (Refuses.bind before after.refuses).outcome
  refused := by
    rw [refused_bind before.outcome, after.refused, further, furthest_of_le]
    exact fun other early => Nat.le_trans after.shorter (before.refused other early)
  shorter := Nat.le_trans after.shorter before.shorter

theorem RefusesAt.bindFirst {first : Rule α} (next : α → Rule β) {text place : Place}
    (at_ : RefusesAt first text place) : RefusesAt (first >>= next) text place where
  outcome := (at_.refuses.bindFirst next).outcome
  refused := by
    have noted := at_.refused
    change (andThen first next text).refused = _
    unfold andThen
    split
    next outcome => rw [outcome] at noted; exact noted
    next outcome => have none := at_.outcome; rw [outcome] at none; cases none
  shorter := at_.shorter

theorem RefusesAt.or {first second : Rule α} {text place : Place}
    (one : RefusesAt first text place) (other : RefusesAt second text place) :
    RefusesAt (first <|> second) text place where
  outcome := by rw [or_outcome, one.outcome, other.outcome]; rfl
  refused := by rw [refused_or one.outcome, one.refused, other.refused, further, furthest_self]
  shorter := one.shorter

/-- Where the second rule reads the text after all, it is still noted that the first was refused
further on. -/
theorem RefusesAt.or_reads {first second : Rule α} {text place rest : Place} {value : α}
    (one : RefusesAt first text place) (other : Reads second text value rest)
    (behind : place.length < rest.length) :
    (first <|> second) text = ⟨some (value, rest), some place⟩ := by
  have read : ((first <|> second) text).outcome = some (value, rest) := by
    rw [or_outcome, one.outcome, other.outcome]
    rfl
  have noted : ((first <|> second) text).refused = some place := by
    rw [refused_or one.outcome, one.refused]
    cases late : (second text).refused with
    | none => rfl
    | some last =>
      have early := other.refused last late
      rw [further, furthest_of_lt (Nat.lt_of_lt_of_le behind early)]
  cases attempt : (first <|> second) text with
  | mk outcome refused =>
    rw [attempt] at read noted
    rw [← read, ← noted]

end Rule

inductive Blocked : Place → Prop where
  | finished : Blocked []
  | delimiter {c : Char} (sign : IsDelimiter c) (rest : Place) : Blocked (c :: rest)
  | unclosed {quote : Char} {rest : Place} (isQuote : IsQuote quote)
      (never : quotedText quote rest = none) : Blocked (quote :: rest)

theorem Blocked.endsRun {place : Place} (blocked : Blocked place) : EndsRun place := by
  intro c member
  cases blocked with
  | finished => cases member
  | delimiter sign => cases member; exact sign.isStrict_eq_false
  | unclosed isQuote => cases member; exact isQuote.isStrict_eq_false

theorem Blocked.skipBlanks_eq {place : Place} (blocked : Blocked place) :
    Text.skipBlanks place = place := by
  cases blocked with
  | finished => rfl
  | delimiter sign => exact skipBlanks_of_head sign.isBlank_eq_false
  | unclosed isQuote => exact skipBlanks_of_head isQuote.isBlank_eq_false

theorem refuses_oneOf {accepts : Char → Bool} {text : Place}
    (stops : ∀ c ∈ text.head?, accepts c = false) : Refuses (oneOf accepts) text text := by
  apply Refuses.ofEq
  cases text with
  | nil => rfl
  | cons c text => rw [oneOf, stops c rfl]; rfl

theorem refuses_character_of_head {d : Char} {text : Place} (other : ∀ c ∈ text.head?, c ≠ d) :
    Refuses (character d) text text :=
  refuses_oneOf fun c member => beq_false_of_ne (other c member)

theorem quotedWord_of_never {quote : Char} {text : Place} (never : quotedText quote text = none) :
    quotedWord quote (quote :: text) = ⟨none, some (quote :: text)⟩ := by
  have opened : (character quote (quote :: text)) = ⟨some (quote, text), none⟩ := by
    simp only [character, oneOf, beq_self_eq_true, if_true]
  have stuck : (character quote >>= fun _ => closing quote) (quote :: text) = ⟨none, none⟩ := by
    change andThen _ _ _ = _
    simp only [andThen, opened, closing, never, Option.map_none, further]
  rw [quotedWord_eq, named, stuck]
  rfl

theorem Blocked.refusesAt_quotedWord {place : Place} (blocked : Blocked place) {quote : Char}
    (isQuote : IsQuote quote) : RefusesAt (quotedWord quote) place place := by
  by_cases opened : ∃ rest, place = quote :: rest
  · obtain ⟨rest, rfl⟩ := opened
    have never : quotedText quote rest = none := by
      cases blocked with
      | delimiter sign => exact absurd sign isQuote.not_isDelimiter
      | unclosed _ never => exact never
    have stuck := quotedWord_of_never never
    exact ⟨by rw [stuck], by rw [stuck], Nat.le_refl _⟩
  · have other : ∀ c ∈ place.head?, c ≠ quote := by
      intro c member same
      obtain ⟨rest, split⟩ := List.head?_eq_some_iff.1 member
      exact opened ⟨rest, same ▸ split⟩
    rw [quotedWord_eq]
    exact ((refuses_character_of_head other).bindFirst _).refusesAt_named

theorem Blocked.refusesAt_strictWord {place : Place} (blocked : Blocked place) :
    RefusesAt strictWord place place := by
  have none : ([] ++ place).takeWhile isStrict = [] :=
    takeWhile_run (List.forall_mem_nil _) blocked.endsRun
  rw [List.nil_append] at none
  have stuck : Refuses (run isStrict) place place := .ofEq (by rw [run, none]; rfl)
  exact (stuck.bindFirst _).refusesAt_named

theorem Blocked.refusesAt_word {place : Place} (blocked : Blocked place) :
    RefusesAt word place place :=
  (blocked.refusesAt_quotedWord (.inl rfl)).or
    ((blocked.refusesAt_quotedWord (.inr rfl)).or blocked.refusesAt_strictWord)

theorem Blocked.refusesAt_filterValue {place : Place} (blocked : Blocked place)
    (comparison : Comparison) : RefusesAt (filterValue comparison) place place := by
  have other : ∀ c ∈ place.head?, c ≠ '(' := by
    intro c member same
    have notStrict := blocked.endsRun c member
    rw [same] at notStrict
    cases notStrict
  have noRange : RefusesAt dayRange place place :=
    ((refuses_character_of_head other).bindFirst _).refusesAt_named
  exact (noRange.bindFirst _).or (blocked.refusesAt_word.bindFirst _)

theorem Blocked.refusesAt_item {place : Place} (blocked : Blocked place) :
    RefusesAt item place place :=
  ((blocked.refusesAt_strictWord.bindFirst _).refuses.refusesAt_named).or (blocked.refusesAt_word.bindFirst _)

inductive StopsAt : Place → Place → Prop where
  /-- Something stands where an item should begin. -/
  | item {gap place : List Char} (blank : Blank gap) (blocked : Blocked place)
      (unfinished : place ≠ []) : StopsAt (gap ++ place) place
  /-- A field and a delimiter have no value. -/
  | value {gap field between place : List Char} {comparison : Comparison} (blank : Blank gap)
      (name : isBare field = true) (spaced : Blank between) (blocked : Blocked place) :
      StopsAt (gap ++ (field ++ comparison.delimiter :: (between ++ place))) place
  | later {gap text rest place : List Char} {item : Item DayLiteral} (blank : Blank gap)
      (opens : Opens text item rest) (stops : StopsAt rest place) : StopsAt (gap ++ text) place

theorem StopsAt.suffix {text place : Place} (stops : StopsAt text place) : place <:+ text := by
  induction stops with
  | item => exact List.suffix_append ..
  | value =>
    refine .trans ?_ ((List.suffix_append ..).trans (List.suffix_append ..))
    exact (List.suffix_append ..).trans (List.suffix_cons ..)
  | later blank opens stops step => exact step.trans (opens.suffix.trans (List.suffix_append ..))

theorem StopsAt.prepend {gap text place : List Char} (blank : Blank gap)
    (stops : StopsAt text place) : StopsAt (gap ++ text) place := by
  cases stops with
  | item later blocked unfinished =>
    rw [← List.append_assoc]
    exact .item (blank.append later) blocked unfinished
  | value later name spaced blocked =>
    rw [← List.append_assoc]
    exact .value (blank.append later) name spaced blocked
  | later later opens stops =>
    rw [← List.append_assoc]
    exact .later (blank.append later) opens stops

theorem Blocked.readItems_eq {place : Place} (blocked : Blocked place) (unfinished : place ≠ []) :
    readItems place = .error place := by
  have refused := blocked.refusesAt_item
  rw [readItems]
  split
  next found rest noted attempt =>
    rw [blocked.skipBlanks_eq] at attempt
    cases (congrArg Attempt.outcome attempt).symm.trans refused.outcome
  next noted attempt =>
    rw [blocked.skipBlanks_eq] at attempt ⊢
    cases (congrArg Attempt.refused attempt).symm.trans refused.refused
    rw [if_neg (by rwa [List.isEmpty_iff]), furthest_self]

theorem Blocked.refusesAt_filter {field between place : List Char} {comparison : Comparison}
    (blocked : Blocked place) (name : isBare field = true) (spaced : Blank between) :
    RefusesAt filter (field ++ comparison.delimiter :: (between ++ place)) place := by
  have stops : EndsRun (comparison.delimiter :: (between ++ place)) :=
    fun c member => Option.some.inj member ▸ isStrict_delimiter comparison
  have skipped : Reads blanks (between ++ place) () place := by
    apply Reads.ofEq
    · rw [blanks, spaced.skip, blocked.skipBlanks_eq]
    · rw [List.length_append]
      omega
  have valueless := (blocked.refusesAt_filterValue comparison).bindFirst fun value =>
    (pure (.filter (String.ofList field) value) : Rule (Item DayLiteral))
  apply RefusesAt.named
  · exact .bind (reads_strictWord name stops)
      (.bind (reads_delimiter comparison _) (.bind skipped valueless))
  · simp only [List.length_append, List.length_cons]
    omega

/-- The field of a filter without a value is read as a term, but the filter is refused further on,
where the value is missing. -/
theorem Blocked.readItems_value {field between place : List Char} {comparison : Comparison}
    (blocked : Blocked place) (name : isBare field = true) (spaced : Blank between) :
    readItems (field ++ comparison.delimiter :: (between ++ place)) = .error place := by
  have stuck : Blocked (comparison.delimiter :: (between ++ place)) :=
    .delimiter (isDelimiter_delimiter comparison) _
  have longer : place.length < (comparison.delimiter :: (between ++ place)).length := by
    rw [List.length_cons, List.length_append]
    omega
  have noFilter : RefusesAt filter (field ++ comparison.delimiter :: (between ++ place)) place :=
    blocked.refusesAt_filter name spaced
  have term : Reads (do let text ← word; return (Item.term text : Item DayLiteral)) _ _ _ :=
    (reads_word_of_bare name stuck.endsRun).bind (.pure _ _)
  have read : item _ = _ := noFilter.or_reads term longer
  rw [readItems]
  split
  next found behind noted attempt =>
    rw [skipBlanks_of_isBare name, read] at attempt
    cases attempt
    rw [stuck.readItems_eq (List.cons_ne_nil _ _)]
    exact congrArg Except.error (furthest_of_lt longer)
  next noted attempt =>
    rw [skipBlanks_of_isBare name, read] at attempt
    cases attempt

theorem StopsAt.readItems_eq {text place : Place} (stops : StopsAt text place) :
    readItems text = .error place := by
  induction stops with
  | item blank blocked unfinished =>
    rw [readItems_of_blank blank, blocked.readItems_eq unfinished]
  | value blank name spaced blocked =>
    rw [readItems_of_blank blank, blocked.readItems_value name spaced]
  | later blank opens stops step =>
    rw [readItems_of_opens blank opens, step]
    rfl

/-- A word begins where no blank does, unless nothing does. -/
theorem quoted_or_bare_or_blocked {text : Place} (inked : Text.skipBlanks text = text) :
    (∃ quote tail body rest, text = quote :: tail ∧ IsQuote quote ∧
      quotedText quote tail = some (body, rest)) ∨
    (∃ run rest, text = run ++ rest ∧ isBare run = true ∧ EndsRun rest) ∨ Blocked text := by
  cases text with
  | nil => exact .inr (.inr .finished)
  | cons c tail =>
    by_cases quote : IsQuote c
    · cases closed : quotedText c tail with
      | none => exact .inr (.inr (.unclosed quote closed))
      | some read => exact .inl ⟨c, tail, read.1, read.2, rfl, quote, closed⟩
    by_cases delimiter : IsDelimiter c
    · exact .inr (.inr (.delimiter delimiter tail))
    have notBlank : Text.isBlank c = false := by
      apply head_dropWhile Text.isBlank (c :: tail)
      rw [show (c :: tail).dropWhile Text.isBlank = c :: tail from inked]
      rfl
    have strict : isStrict c = true := isStrict_eq_true_iff.2 ⟨notBlank, quote, delimiter⟩
    refine .inr (.inl ⟨_, _, List.takeWhile_append_dropWhile.symm, isBare_iff.2 ⟨?_, ?_⟩,
      head_dropWhile isStrict (c :: tail)⟩)
    · rw [List.takeWhile_cons_of_pos strict]
      exact List.cons_ne_nil _ _
    · exact List.all_eq_true.1 List.all_takeWhile

theorem exists_opensWithValue_of_bare (comparison : Comparison) {run rest : List Char}
    (bare : isBare run = true) (stops : EndsRun rest) :
    ∃ value, OpensWithValue comparison (run ++ rest) value rest := by
  by_cases ranged : EndsWord rest ∧ ∃ range, Range.Writes range run
  · obtain ⟨ends, range, writes⟩ := ranged
    exact ⟨_, .range writes ends⟩
  · exact ⟨_, .bare bare stops fun ends range writes => ranged ⟨ends, range, writes⟩⟩

theorem opensWithValue_or_blocked (comparison : Comparison) {text : Place}
    (inked : Text.skipBlanks text = text) :
    (∃ value rest, OpensWithValue comparison text value rest) ∨ Blocked text := by
  rcases quoted_or_bare_or_blocked inked with ⟨quote, tail, body, rest, rfl, isQuote, closed⟩ |
    ⟨run, rest, rfl, bare, stops⟩ | blocked
  · exact .inl ⟨_, rest, .quoted isQuote closed⟩
  · obtain ⟨value, opens⟩ := exists_opensWithValue_of_bare comparison bare stops
    exact .inl ⟨value, rest, opens⟩
  · exact .inr blocked

theorem skipBlanks_skipBlanks (text : Place) :
    Text.skipBlanks (Text.skipBlanks text) = Text.skipBlanks text :=
  List.dropWhile_idempotent Text.isBlank text

theorem exists_blank_append (text : Place) :
    ∃ gap, Blank gap ∧ text = gap ++ Text.skipBlanks text :=
  ⟨text.takeWhile Text.isBlank, List.all_eq_true.1 List.all_takeWhile,
    List.takeWhile_append_dropWhile.symm⟩

theorem opens_or_stopsAt {text : Place} (inked : Text.skipBlanks text = text)
    (unfinished : text ≠ []) :
    (∃ item rest, Opens text item rest) ∨ ∃ place, StopsAt text place := by
  rcases quoted_or_bare_or_blocked inked with ⟨quote, tail, body, rest, rfl, isQuote, closed⟩ |
    ⟨run, rest, rfl, bare, stops⟩ | blocked
  · exact .inl ⟨_, rest, .quoted isQuote closed⟩
  · by_cases delimited : ∃ comparison behind, rest = Comparison.delimiter comparison :: behind
    · obtain ⟨comparison, behind, rfl⟩ := delimited
      obtain ⟨gap, blank, split⟩ := exists_blank_append behind
      rw [split]
      rcases opensWithValue_or_blocked comparison (skipBlanks_skipBlanks behind) with
        ⟨value, rest, opens⟩ | blocked
      · exact .inl ⟨_, rest, .filter bare blank opens⟩
      · exact .inr ⟨_, .value blank_nil bare blank blocked⟩
    · refine .inl ⟨_, rest, .bare bare stops fun c member delimiter => delimited ?_⟩
      obtain ⟨behind, rfl⟩ := List.head?_eq_some_iff.1 member
      rcases delimiter with rfl | rfl
      · exact ⟨.contains, behind, rfl⟩
      · exact ⟨.equals, behind, rfl⟩
  · exact .inr ⟨text, .item blank_nil blocked unfinished⟩

theorem consistsOf_or_stopsAt (text : Place) :
    (∃ items, ConsistsOf text items) ∨ ∃ place, StopsAt text place := by
  induction size : text.length using Nat.strongRecOn generalizing text with
  | ind size step =>
    obtain ⟨gap, blank, split⟩ := exists_blank_append text
    by_cases finished : Text.skipBlanks text = []
    · rw [split, finished, List.append_nil]
      exact .inl ⟨[], .nil blank⟩
    rw [split]
    rcases opens_or_stopsAt (skipBlanks_skipBlanks text) finished with
      ⟨item, rest, opens⟩ | ⟨place, stops⟩
    · have shorter := advances_item _ _ _ (reads_item opens).outcome
      have kept := Text.length_skipBlanks_le text
      rcases step rest.length (by omega) rest rfl with ⟨items, others⟩ | ⟨place, stops⟩
      · exact .inl ⟨_, .cons blank opens others⟩
      · exact .inr ⟨_, .later blank opens stops⟩
    · exact .inr ⟨place, stops.prepend blank⟩

/-- A text that is not read stops at the furthest place at which a rule was refused. -/
theorem readItems_eq_error_iff {text place : Place} :
    readItems text = .error place ↔ StopsAt text place := by
  constructor
  · intro failed
    rcases consistsOf_or_stopsAt text with ⟨items, consists⟩ | ⟨other, stops⟩
    · rw [readItems_eq_ok_iff.2 consists] at failed
      cases failed
    · rw [stops.readItems_eq] at failed
      cases failed
      exact stops
  · exact StopsAt.readItems_eq

theorem StopsAt.not_consistsOf {text place : Place} (stops : StopsAt text place)
    (items : List (Item DayLiteral)) : ¬ ConsistsOf text items := by
  intro consists
  have read := readItems_eq_ok_iff.2 consists
  rw [stops.readItems_eq] at read
  cases read

end PeriodicalSearch.Query
