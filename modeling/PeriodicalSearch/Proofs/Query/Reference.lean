import PeriodicalSearch.Proofs.Query.FilterLookup
import PeriodicalSearch.Proofs.Query.Pieces

/-! The two readings of a query agree: the items of which a text consists are those as which its
pieces read, and the texts that consist of no items are those with an open quote or with pieces
that do not read as items. -/

namespace PeriodicalSearch.Query

theorem unescape_cons {c : Char} (plain : c ≠ '\\') (body : List Char) :
    unescape (c :: body) = c :: unescape body := by
  rw [unescape]
  · exact fun same => absurd same plain
  · exact fun _ _ same => absurd same plain

theorem quotedText_eq {quote : Char} (isQuote : IsQuote quote) (text : List Char) :
    quotedText quote text =
      (quotedBody quote text).map fun read => (unescape read.1, read.2) := by
  have noBackslash := isQuote.ne_backslash
  fun_induction quotedText quote text with
  | case1 => rfl
  | case2 c tail step =>
    rw [quotedBody, step, Option.map_map, Option.map_map]
    rfl
  | case3 tail escape =>
    rw [quotedBody, if_pos rfl]
    · rfl
    · exact escape
  | case4 tail escape other =>
    cases tail with
    | nil =>
      simp only [quotedBody, Option.map_none]
      rw [if_neg other]
      rfl
    | cons c tail => exact absurd rfl (escape c tail rfl)
  | case5 c tail escape other plain step =>
    rw [quotedBody, if_neg other, step, Option.map_map, Option.map_map]
    · simp only [Function.comp_def, unescape_cons plain]
    · exact escape

theorem quotedText_eq_some_iff {quote : Char} (isQuote : IsQuote quote) {text value : List Char}
    {rest : Place} : quotedText quote text = some (value, rest) ↔
      ∃ body, quotedBody quote text = some (body, rest) ∧ value = unescape body := by
  rw [quotedText_eq isQuote, Option.map_eq_some_iff]
  constructor
  · intro found
    obtain ⟨⟨body, behind⟩, closed, same⟩ := found
    cases same
    exact ⟨body, closed, rfl⟩
  · intro found
    obtain ⟨body, closed, rfl⟩ := found
    exact ⟨(body, rest), closed, rfl⟩

/-- Blanks before a text that begins with none are one more piece, if there are any. -/
theorem pieces_of_blank {gap text : List Char} (blank : Blank gap)
    (inked : Text.skipBlanks text = text) {parts : List Piece} (cut : pieces text = some parts) :
    ∃ between, (between = [] ∨ ∃ run, between = [.blanks run]) ∧
      pieces (gap ++ text) = some (between ++ parts) := by
  cases gap with
  | nil => exact ⟨[], .inl rfl, cut⟩
  | cons c gap =>
    have stops := head_dropWhile Text.isBlank text
    rw [show text.dropWhile Text.isBlank = text from inked] at stops
    exact ⟨[.blanks (c :: gap)], .inr ⟨_, rfl⟩,
      pieces_eq_cons_iff.2 ⟨text, .blanks (List.cons_ne_nil _ _) blank stops, cut⟩⟩

theorem ReadAs.spaced {between parts : List Piece} {items : List (Item (List Char))}
    (spaced : between = [] ∨ ∃ run, between = [.blanks run]) (others : ReadAs parts items) :
    ReadAs (between ++ parts) items := by
  rcases spaced with rfl | ⟨run, rfl⟩
  · exact others
  · exact .blanks others

theorem writesValue_of_opens {comparison : Comparison} {text rest : Place}
    {value : FilterValue DayLiteral} (opens : OpensWithValue comparison text value rest)
    {parts : List Piece} (cut : pieces rest = some parts) :
    ∃ piece, Cuts text piece rest ∧
      WritesValue comparison piece parts (value.mapDay DayLiteral.digits) := by
  cases opens with
  | quoted isQuote closed =>
    obtain ⟨body, before, rfl⟩ := (quotedText_eq_some_iff isQuote).1 closed
    exact ⟨_, .quoted isQuote before, .quoted⟩
  | @range range word rest writes ends =>
    refine ⟨_, .strict (isBare_of_writes writes) ends.endsRun, ?_⟩
    rw [FilterValue.mapDay, literals_digits writes.2]
    exact .range writes ((endsWord_iff cut).1 ends)
  | bare bare stops noRange =>
    exact ⟨_, .strict bare stops, .bare fun ends => noRange ((endsWord_iff cut).2 ends)⟩

theorem readAs_of_opens {text rest : Place} {item : Item DayLiteral}
    (opens : Opens text item rest) {parts : List Piece} {items : List (Item (List Char))}
    (cut : pieces rest = some parts) (others : ReadAs parts items) :
    ∃ whole, pieces text = some whole ∧
      ReadAs whole (item.mapDay DayLiteral.digits :: items) := by
  cases opens with
  | quoted isQuote closed =>
    obtain ⟨body, before, rfl⟩ := (quotedText_eq_some_iff isQuote).1 closed
    exact ⟨_, pieces_eq_cons_iff.2 ⟨rest, .quoted isQuote before, cut⟩, .quoted others⟩
  | @bare run rest bare stops noField =>
    exact ⟨_, pieces_eq_cons_iff.2 ⟨rest, .strict bare stops, cut⟩,
      .bare ((noField_iff cut).1 noField) others⟩
  | @filter field gap text rest comparison value name blank opens =>
    obtain ⟨piece, cuts, writes⟩ := writesValue_of_opens opens cut
    have value_cut := pieces_eq_cons_iff.2 ⟨rest, cuts, cut⟩
    obtain ⟨between, spaced, gap_cut⟩ := pieces_of_blank blank opens.skipBlanks_eq value_cut
    have stops : EndsRun (comparison.delimiter :: (gap ++ text)) :=
      fun c member => Option.some.inj member ▸ isStrict_delimiter comparison
    refine ⟨_, pieces_eq_cons_iff.2 ⟨_, .strict name stops, pieces_eq_cons_iff.2
      ⟨_, .delimiter comparison _, gap_cut⟩⟩, .filter spaced writes others⟩

theorem readAs_of_consistsOf {text : Place} {items : List (Item DayLiteral)}
    (consists : ConsistsOf text items) :
    ∃ parts, pieces text = some parts ∧
      ReadAs parts (items.map (Item.mapDay DayLiteral.digits)) := by
  induction consists with
  | @nil gap blank =>
    obtain ⟨between, spaced, cut⟩ := pieces_of_blank blank rfl pieces_nil
    rw [List.append_nil] at cut
    exact ⟨_, cut, ReadAs.nil.spaced spaced⟩
  | cons blank opens others step =>
    obtain ⟨parts, cut, reads⟩ := step
    obtain ⟨whole, item_cut, item_reads⟩ := readAs_of_opens opens cut reads
    obtain ⟨between, spaced, gap_cut⟩ := pieces_of_blank blank opens.skipBlanks_eq item_cut
    exact ⟨_, gap_cut, item_reads.spaced spaced⟩

theorem blank_of_spaced {between parts : List Piece}
    (spaced : between = [] ∨ ∃ run, between = [.blanks run]) {text : Place}
    (cut : pieces text = some (between ++ parts)) :
    ∃ gap rest, Blank gap ∧ text = gap ++ rest ∧ pieces rest = some parts := by
  rcases spaced with rfl | ⟨run, rfl⟩
  · exact ⟨[], text, blank_nil, rfl, cut⟩
  · obtain ⟨rest, cuts, later⟩ := pieces_eq_cons_iff.1 cut
    cases cuts with
    | blanks nonempty blank => exact ⟨run, rest, blank, rfl, later⟩

theorem opens_of_writesValue {comparison : Comparison} {text rest : Place} {piece : Piece}
    {parts : List Piece} {shown : FilterValue (List Char)} (cuts : Cuts text piece rest)
    (cut : pieces rest = some parts) (writes : WritesValue comparison piece parts shown) :
    ∃ value, OpensWithValue comparison text value rest ∧
      value.mapDay DayLiteral.digits = shown := by
  cases writes with
  | quoted =>
    cases cuts with
    | quoted isQuote closed =>
      exact ⟨_, .quoted isQuote ((quotedText_eq_some_iff isQuote).2 ⟨_, closed, rfl⟩), rfl⟩
  | range writes ends =>
    cases cuts with
    | strict bare stops =>
      refine ⟨_, .range writes ((endsWord_iff cut).2 ends), ?_⟩
      rw [FilterValue.mapDay, literals_digits writes.2]
  | bare noRange =>
    cases cuts with
    | strict bare stops =>
      exact ⟨_, .bare bare stops fun ends => noRange ((endsWord_iff cut).1 ends), rfl⟩

theorem consistsOf_of_readAs {parts : List Piece} {shown : List (Item (List Char))}
    (reads : ReadAs parts shown) {text : Place} (cut : pieces text = some parts) :
    ∃ items, ConsistsOf text items ∧ items.map (Item.mapDay DayLiteral.digits) = shown := by
  -- Each rule takes the first pieces, which are cut off the text; the hypothesis reads the rest.
  induction reads generalizing text with
  | nil =>
    cases eq_nil_of_pieces cut
    exact ⟨[], .nil blank_nil, rfl⟩
  | blanks others step =>
    obtain ⟨rest, cuts, later⟩ := pieces_eq_cons_iff.1 cut
    obtain ⟨items, consists, same⟩ := step later
    cases cuts with
    | blanks nonempty blank => exact ⟨items, consists.prepend blank, same⟩
  | quoted others step =>
    obtain ⟨rest, cuts, later⟩ := pieces_eq_cons_iff.1 cut
    obtain ⟨items, consists, rfl⟩ := step later
    cases cuts with
    | quoted isQuote closed =>
      have read := (quotedText_eq_some_iff isQuote).2 ⟨_, closed, rfl⟩
      exact ⟨_, (Opens.quoted isQuote read).consistsOf consists, rfl⟩
  | bare noField others step =>
    obtain ⟨rest, cuts, later⟩ := pieces_eq_cons_iff.1 cut
    obtain ⟨items, consists, rfl⟩ := step later
    cases cuts with
    | strict bare stops =>
      have opens := Opens.bare bare stops ((noField_iff later).2 noField)
      exact ⟨_, opens.consistsOf consists, rfl⟩
  | filter spaced writes others step =>
    obtain ⟨_, named, afterName⟩ := pieces_eq_cons_iff.1 cut
    obtain ⟨behind, signed, afterSign⟩ := pieces_eq_cons_iff.1 afterName
    obtain ⟨gap, valueText, blank, rfl, valueCut⟩ := blank_of_spaced spaced afterSign
    obtain ⟨rest, cuts, later⟩ := pieces_eq_cons_iff.1 valueCut
    obtain ⟨value, opens, rfl⟩ := opens_of_writesValue cuts later writes
    obtain ⟨items, consists, rfl⟩ := step later
    cases named with
    | strict name stops =>
      cases signed with
      | delimiter =>
        exact ⟨_, (Opens.filter name blank opens).consistsOf consists, rfl⟩

/-- The texts of the days that a query has for a field are those of the last setting. -/
theorem get?_ofItems (resolved : List (Item Date)) (field : String) :
    ((ofItems resolved).filters.get? field).map (FilterValue.mapDay Date.text) =
      ((resolved.map (Item.mapDay Date.text)).filterMap Item.filter?).reverse.lookup field := by
  rw [Item.filterMap_filter?, ← List.map_reverse, Filters.lookup_map_snd]
  exact congrArg _ (Filters.get?_ofList _ field)

/-- The fault lies in the form of the text, neither in its length nor in the calendar. -/
def Fault.isGrammatical : Fault → Bool
  | .unclosedQuote _ | .unexpected .. | .unexpectedEnd _ => true
  | .tooLong | .impossibleDate .. => false

theorem isGrammatical_grammarFault (text : List Char) (place : Place) :
    (grammarFault text place).isGrammatical = true := by
  unfold grammarFault
  split
  · rfl
  · split <;> rfl

theorem not_isGrammatical_iff {text : String} (short : text.utf8ByteSize ≤ maxLength) :
    (∀ fault, parse text = .error fault → fault.isGrammatical = false) ↔
      ∃ items, ConsistsOf text.toList items := by
  constructor
  · intro ungrammatical
    cases read : readItems text.toList with
    | ok items => exact ⟨items, readItems_eq_ok_iff.1 read⟩
    | error place =>
      have grammatical := ungrammatical _ (parse_of_refused short read)
      rw [isGrammatical_grammarFault] at grammatical
      cases grammatical
  · intro found fault failed
    obtain ⟨items, consists⟩ := found
    rcases (parse_eq_error_iff short).1 failed with ⟨place, refused, -⟩ | ⟨_, literal, -, -, rfl⟩
    · rw [readItems_eq_ok_iff.2 consists] at refused
      cases refused
    · rfl

/-- The days are resolved when each of them is the text of a day of the calendar. -/
theorem resolved_of_real {text : Place} {items : List (Item DayLiteral)}
    (consists : ConsistsOf text items)
    (real : ∀ day ∈ (items.map (Item.mapDay DayLiteral.digits)).flatMap Item.days,
      ∃ date : Date, date.text = day) :
    ∃ resolved : List (Item Date),
      items.map (Item.mapDay DayLiteral.date?) = resolved.map (Item.mapDay some) ∧
        items.map (Item.mapDay DayLiteral.digits) = resolved.map (Item.mapDay Date.text) := by
  rw [Item.flatMap_days_mapDay] at real
  have possible : impossibleDay? (items.flatMap Item.days) = none := by
    apply List.find?_eq_none.2
    intro literal member
    obtain ⟨date, same⟩ := real _ (List.mem_map_of_mem member)
    obtain ⟨day, behind, form, rfl, -⟩ := consists.mem_days member
    rw [DayLiteral.digits_at form] at same
    rw [(DayLiteral.date?_at form behind date).2 same]
    exact Bool.false_ne_true
  obtain ⟨resolved, -, same⟩ := (resolves_items text items).possible possible
  refine ⟨resolved, same, Item.map_mapDay_congr same fun literal member date found => ?_⟩
  obtain ⟨day, behind, form, rfl, -⟩ := consists.mem_days member
  rw [DayLiteral.digits_at form, (DayLiteral.date?_at form behind date).1 found]

/-- A text that is not too long is grammatical exactly when its quotes are closed and its pieces
read as items, which they do in one way. When the calendar has the days of the ranges, the query
has the terms in order and, for each field, the last of its values. -/
theorem parse_eq_reading {text : String} (short : text.utf8ByteSize ≤ maxLength) :
    ((∀ fault, parse text = .error fault → fault.isGrammatical = false) ↔
      ∃ parts items, pieces text.toList = some parts ∧ ReadAs parts items) ∧
    ∀ parts items, pieces text.toList = some parts → ReadAs parts items →
      (∀ other, ReadAs parts other → other = items) ∧
      ((∀ day ∈ items.flatMap Item.days, ∃ date : Date, date.text = day) →
        ∃ query, parse text = .ok query ∧ query.terms = items.filterMap Item.term? ∧
          ∀ field, (query.filters.get? field).map (FilterValue.mapDay Date.text) =
            (items.filterMap Item.filter?).reverse.lookup field) := by
  constructor
  · apply (not_isGrammatical_iff short).trans
    constructor
    · intro found
      obtain ⟨items, consists⟩ := found
      obtain ⟨parts, cut, reads⟩ := readAs_of_consistsOf consists
      exact ⟨parts, _, cut, reads⟩
    · intro found
      obtain ⟨parts, shown, cut, reads⟩ := found
      obtain ⟨items, consists, -⟩ := consistsOf_of_readAs reads cut
      exact ⟨items, consists⟩
  intro parts shown cut reads
  constructor
  · -- Both come from the items that are read from the text.
    intro other others
    obtain ⟨items, consists, rfl⟩ := consistsOf_of_readAs reads cut
    obtain ⟨same, sameConsists, rfl⟩ := consistsOf_of_readAs others cut
    have read := readItems_eq_ok_iff.2 consists
    rw [readItems_eq_ok_iff.2 sameConsists] at read
    cases read
    rfl
  · intro real
    obtain ⟨items, consists, rfl⟩ := consistsOf_of_readAs reads cut
    obtain ⟨resolved, same, texts⟩ := resolved_of_real consists real
    refine ⟨ofItems resolved, parse_eq_ok_iff.2 ⟨short, items, resolved, consists, same, rfl⟩,
      ?_, fun field => ?_⟩
    · rw [texts, Item.filterMap_term?]
      rfl
    · rw [texts]
      exact get?_ofItems resolved field

/-- A later filter of the same field counts, and an escaped quote is part of the term. -/
theorem parse_leap_day_and_term :
    ∃ query, parse "at:x at=(2020-02-29,) 'x\\'y'" = .ok query ∧ query.terms = ["x'y"] ∧
      (query.filters.get? "at").map (FilterValue.mapDay Date.text) =
        some (.range (.since "2020-02-29".toList)) := by
  have short : "at:x at=(2020-02-29,) 'x\\'y'".utf8ByteSize ≤ maxLength := by decide
  have leapDay : ∃ date : Date, date.HasPlainYear ∧ date.text = "2020-02-29".toList :=
    ⟨⟨2020, 2, 29, by decide⟩, by decide, by decide⟩
  obtain ⟨date, plain, text⟩ := leapDay
  have ranged : Range.Writes (.since "2020-02-29".toList) "(2020-02-29,)".toList :=
    ⟨rfl, fun day only => List.mem_singleton.1 only ▸ text ▸ Date.isForm_text plain⟩
  have bare : ∀ range, ¬ Range.Writes range ['x'] := fun range writes => nomatch writes.1
  have value : ∀ parts, WritesValue .equals (.strict "(2020-02-29,)".toList)
      (.blanks [' '] :: parts) (.range (.since "2020-02-29".toList)) := fun parts =>
    .range ranged fun piece head => ⟨[' '], (Option.mem_some.1 head).symm⟩
  have term : ReadAs [.quoted "x\\'y".toList] [.term "x'y"] := .quoted .nil
  obtain ⟨query, accepted, terms, filters⟩ := ((parse_eq_reading short).2
    [.strict "at".toList, .delimiter .contains, .strict ['x'], .blanks [' '],
      .strict "at".toList, .delimiter .equals, .strict "(2020-02-29,)".toList, .blanks [' '],
      .quoted "x\\'y".toList]
    [.filter "at" (.text .contains "x"), .filter "at" (.range (.since "2020-02-29".toList)),
      .term "x'y"]
    (by cbv)
    (.filter (.inl rfl) (.bare fun _ => bare)
      (.blanks (.filter (.inl rfl) (value _) (.blanks term))))).2 fun day only =>
        ⟨date, text.trans (List.mem_singleton.1 only).symm⟩
  exact ⟨query, accepted, terms, filters "at"⟩

end PeriodicalSearch.Query
