import PeriodicalSearch.Proofs.Query.Octets
import PeriodicalSearch.Proofs.Query.RoundTrip

/-! The size of written queries. An accepted text may leave out quotes, escapes and spaces that are
written, so a query can be longer than the text it was read from, but never more than twice as
long: what is added to an item is paid for by its quotes, its field or its own characters. -/

namespace PeriodicalSearch.Query

open Text

theorem utf8Length_quotedCharacter_le (c : Char) :
    utf8Length (quotedCharacter c) ≤ 2 * c.utf8Size := by
  have positive := c.utf8Size_pos
  have backslash : '\\'.utf8Size = 1 := by decide
  unfold quotedCharacter
  split <;> simp only [utf8Length_cons, utf8Length_nil, backslash] <;> omega

theorem utf8Length_flatMap_le (word : List Char) :
    utf8Length (word.flatMap quotedCharacter) ≤ 2 * utf8Length word := by
  induction word with
  | nil => exact Nat.le_refl 0
  | cons c word step =>
    have first := utf8Length_quotedCharacter_le c
    rw [List.flatMap_cons, utf8Length_append, utf8Length_cons]
    omega

theorem utf8Length_quotedForm (word : List Char) :
    utf8Length (quotedForm word) = utf8Length (word.flatMap quotedCharacter) + 2 := by
  have quote : '"'.utf8Size = 1 := by decide
  simp only [quotedForm, utf8Length_cons, utf8Length_append, utf8Length_nil, quote]
  omega

theorem utf8Length_termText_le (term : String) :
    utf8Length (termText term) ≤ 2 * utf8Length term.toList + 2 := by
  unfold termText
  split
  · omega
  · have escapes := utf8Length_flatMap_le term.toList
    rw [utf8Length_quotedForm]
    omega

theorem utf8Length_valueText_le (value : String) :
    utf8Length (valueText value) ≤ 2 * utf8Length value.toList + 2 := by
  unfold valueText
  split
  · omega
  · have escapes := utf8Length_flatMap_le value.toList
    rw [utf8Length_quotedForm]
    omega

/-- A bare word that is quoted as a value begins with a parenthesis, which needs no escape. -/
theorem utf8Length_valueText_of_isBare_le {run : List Char} (bare : isBare run = true) :
    utf8Length (valueText (String.ofList run)) ≤ 2 * utf8Length run + 1 := by
  unfold valueText
  rw [String.toList_ofList, bare]
  split
  · omega
  next parenthesis =>
    simp only [Bool.true_and, bne_iff_ne, ne_eq, Decidable.not_not] at parenthesis
    cases run with
    | nil => cases parenthesis
    | cons c run =>
      cases parenthesis
      have escapes := utf8Length_flatMap_le run
      have plain : quotedCharacter '(' = ['('] := by decide
      have one : '('.utf8Size = 1 := by decide
      rw [utf8Length_quotedForm, List.flatMap_cons, plain, List.singleton_append,
        utf8Length_cons, utf8Length_cons, one]
      omega

theorem Closes.utf8Length_le {quote : Char} {text body rest : List Char}
    (closes : Closes quote text body rest) :
    utf8Length body + 1 + utf8Length rest ≤ utf8Length text := by
  induction closes with
  | quote rest =>
    have positive := quote.utf8Size_pos
    rw [utf8Length_cons, utf8Length_nil]
    omega
  | escaped c later step =>
    simp only [utf8Length_cons]
    omega
  | plain noQuote noBackslash later step =>
    simp only [utf8Length_cons]
    omega

theorem rangeText_of_literals {range : Range (List Char)} {word rest : List Char}
    (writes : range.Writes word) {resolved : Range Date}
    (same : (literals range rest).map DayLiteral.date? = resolved.map some) :
    rangeText resolved = word := by
  have texts := Range.map_congr (h := DayLiteral.digits) (k := Date.text) same
    fun literal member date found => by
      obtain ⟨day, behind, form, rfl, -⟩ := mem_literals writes.2 member
      rw [DayLiteral.digits_at form, (DayLiteral.date?_at form behind date).1 found]
  rw [rangeText_eq_form, ← texts, literals_digits writes.2, writes.1]

theorem utf8Length_filterText (field : String) (value : FilterValue Date) :
    utf8Length (filterText field value) = utf8Length field.toList + 1 + match value with
      | .text _ value => utf8Length (valueText value)
      | .range range => utf8Length (rangeText range) := by
  have colon : ':'.utf8Size = 1 := by decide
  have equals : '='.utf8Size = 1 := by decide
  cases value with
  | text comparison value =>
    cases comparison <;>
      simp only [filterText, Comparison.delimiter, utf8Length_append, utf8Length_cons, colon,
        equals, Nat.add_assoc]
  | range range =>
    simp only [filterText, utf8Length_append, utf8Length_cons, colon, Nat.add_assoc]

theorem OpensWithValue.utf8Length_filterText_le {comparison : Comparison} {text rest : Place}
    {value : FilterValue DayLiteral} (opens : OpensWithValue comparison text value rest)
    {resolved : FilterValue Date} (same : value.mapDay DayLiteral.date? = resolved.mapDay some)
    (field : String) :
    utf8Length (filterText field resolved) + 2 * utf8Length rest ≤
      utf8Length field.toList + 2 + 2 * utf8Length text := by
  rw [utf8Length_filterText]
  cases opens with
  | @quoted quote text body rest isQuote closed =>
    cases resolved with
    | range => cases same
    | text comparison' value =>
      injection same with _ values
      have written := utf8Length_valueText_le value
      have read := (closes_of_quotedText closed).utf8Length_le
      rw [← values, String.toList_ofList, values] at written
      have positive := quote.utf8Size_pos
      rw [utf8Length_cons]
      dsimp only
      omega
  | @bare run rest bare =>
    cases resolved with
    | range => cases same
    | text comparison' value =>
      injection same with _ values
      have written := utf8Length_valueText_of_isBare_le bare
      rw [values] at written
      rw [utf8Length_append]
      dsimp only
      omega
  | @range range word rest writes ends =>
    cases resolved with
    | text => cases same
    | range resolved =>
      injection same with ranges
      have written := rangeText_of_literals writes ranges
      rw [utf8Length_append]
      dsimp only
      rw [written]
      omega

/-- Twice the octets of the read item are enough to write it with a space behind it. -/
theorem Opens.utf8Length_itemText_le {text rest : Place} {item : Item DayLiteral}
    (opens : Opens text item rest) {resolved : Item Date}
    (same : item.mapDay DayLiteral.date? = resolved.mapDay some) :
    utf8Length (itemText resolved) + 1 + 2 * utf8Length rest ≤ 2 * utf8Length text := by
  cases opens with
  | @quoted quote text body rest isQuote closed =>
    cases resolved with
    | filter => cases same
    | term term =>
      injection same with same
      have written := utf8Length_termText_le term
      have read := (closes_of_quotedText closed).utf8Length_le
      rw [← same, String.toList_ofList, same] at written
      have positive := quote.utf8Size_pos
      rw [itemText, utf8Length_cons]
      omega
  | @bare run rest bare =>
    cases resolved with
    | filter => cases same
    | term term =>
      injection same with same
      have written : termText term = run := by
        rw [termText, ← same, String.toList_ofList, if_pos bare]
      have positive := utf8Length_pos (isBare_iff.1 bare).1
      rw [itemText, written, utf8Length_append]
      omega
  | @filter field gap text rest comparison value name blank opens =>
    cases resolved with
    | term => cases same
    | filter field' value' =>
      injection same with fields values
      have written := opens.utf8Length_filterText_le values field'
      rw [← fields, String.toList_ofList, fields] at written
      have positive := utf8Length_pos (isBare_iff.1 name).1
      have delimiter := comparison.delimiter.utf8Size_pos
      rw [itemText, utf8Length_append, utf8Length_cons, utf8Length_append]
      omega

def spacedSize (written : List (Item Date)) : Nat :=
  (written.map fun item => utf8Length (itemText item) + 1).sum

@[simp] theorem spacedSize_nil : spacedSize [] = 0 := rfl

@[simp] theorem spacedSize_cons (item : Item Date) (written : List (Item Date)) :
    spacedSize (item :: written) = utf8Length (itemText item) + 1 + spacedSize written := by
  rw [spacedSize, spacedSize, List.map_cons, List.sum_cons]

theorem spacedSize_replicate (count : Nat) (item : Item Date) :
    spacedSize (List.replicate count item) = count * (utf8Length (itemText item) + 1) := by
  rw [spacedSize, List.map_replicate, List.sum_replicate_nat]

theorem spacedSize_append (written more : List (Item Date)) :
    spacedSize (written ++ more) = spacedSize written + spacedSize more := by
  rw [spacedSize, spacedSize, spacedSize, List.map_append, List.sum_append]

theorem utf8ByteSize_text_le (query : Query) :
    query.text.utf8ByteSize ≤ spacedSize query.items := by
  have bound : ∀ written : List (Item Date),
      utf8Length (List.intercalate [' '] (written.map itemText)) ≤ spacedSize written := by
    intro written
    induction written with
    | nil => exact Nat.le_refl 0
    | cons item written step =>
      cases written with
      | nil => simp
      | cons next written =>
        have space : ' '.utf8Size = 1 := by decide
        rw [List.map_cons, List.map_cons, List.intercalate_cons_cons, utf8Length_append,
          utf8Length_append, utf8Length_cons, utf8Length_nil, space, spacedSize_cons]
        rw [List.map_cons] at step
        omega
  rw [utf8ByteSize_eq, toList_text]
  exact bound query.items

theorem spacedSize_setEntry_le (field : String) (value : FilterValue Date)
    (entries : List (String × FilterValue Date)) :
    spacedSize ((Filters.setEntry field value entries).map .ofSetting) ≤
      spacedSize (((field, value) :: entries).map .ofSetting) := by
  induction entries with
  | nil => exact Nat.le_refl _
  | cons entry entries step =>
    rw [List.map_cons, List.map_cons, spacedSize_cons] at *
    unfold Filters.setEntry
    split
    · exact Nat.le_refl _
    · split
      · simp only [List.map_cons, spacedSize_cons]
        omega
      · simp only [List.map_cons, spacedSize_cons]
        omega

/-- Settings that are overwritten are not written. -/
theorem spacedSize_ofList_le (settings : List (String × FilterValue Date)) :
    spacedSize ((Filters.ofList settings).entries.map .ofSetting) ≤
      spacedSize (settings.map .ofSetting) := by
  induction settings using List.reverseRecOn with
  | nil => exact Nat.le_refl 0
  | append_singleton settings setting step =>
    rw [Filters.ofList_concat, List.map_append, spacedSize_append]
    have last := spacedSize_setEntry_le setting.1 setting.2 (Filters.ofList settings).entries
    rw [List.map_cons, spacedSize_cons] at last
    calc
      _ ≤ _ := last
      _ ≤ utf8Length (itemText (.ofSetting setting)) + 1 + spacedSize (settings.map .ofSetting) :=
        Nat.add_le_add_left step _
      _ = _ := by rw [List.map_singleton, spacedSize_cons, spacedSize_nil, Nat.add_comm]

theorem spacedSize_ofItems_le (resolved : List (Item Date)) :
    spacedSize (ofItems resolved).items ≤ spacedSize resolved := by
  have parts : spacedSize resolved = spacedSize ((resolved.filterMap Item.term?).map .term) +
      spacedSize ((resolved.filterMap Item.filter?).map .ofSetting) := by
    induction resolved with
    | nil => rfl
    | cons item resolved step =>
      cases item with
      | term text =>
        simp only [List.filterMap_cons, Item.term?, Item.filter?, List.map_cons, spacedSize_cons,
          step, Nat.add_assoc]
      | filter field value =>
        simp only [List.filterMap_cons, Item.term?, Item.filter?, List.map_cons, spacedSize_cons,
          step, Nat.add_left_comm, Item.ofSetting]
  have entries := spacedSize_ofList_le (resolved.filterMap Item.filter?)
  rw [items, spacedSize_append, parts]
  exact Nat.add_le_add_left entries _

theorem ConsistsOf.spacedSize_le {text : Place} {items : List (Item DayLiteral)}
    (consists : ConsistsOf text items) {resolved : List (Item Date)}
    (same : items.map (Item.mapDay DayLiteral.date?) = resolved.map (Item.mapDay some)) :
    spacedSize resolved ≤ 2 * utf8Length text := by
  induction consists generalizing resolved with
  | nil =>
    cases resolved with
    | nil => exact Nat.zero_le _
    | cons => cases same
  | cons blank opens others step =>
    cases resolved with
    | nil => cases same
    | cons first resolved =>
      injection same with firsts later
      have here := opens.utf8Length_itemText_le firsts
      have there := step later
      rw [spacedSize_cons, utf8Length_append]
      omega

/-- A parenthesis and backslashes: a bare word that is quoted when it is written as a value, and
then escaped throughout. -/
def backslashes (count : Nat) : List Char := '(' :: List.replicate count '\\'

theorem isBare_backslashes (count : Nat) : isBare (backslashes count) = true := by
  apply isBare_iff.2
  constructor
  · exact List.cons_ne_nil _ _
  intro c member
  rcases List.mem_cons.1 member with rfl | later
  · decide
  · rw [(List.mem_replicate.1 later).2]
    decide

theorem parse_backslashes (count : Nat) (short : count + 3 ≤ maxLength) :
    parse (String.ofList ('a' :: ':' :: backslashes count)) =
      .ok (ofItems [.filter "a" (.text .contains (String.ofList (backslashes count)))]) := by
  have noRange : ∀ range, ¬ Range.Writes range (backslashes count) := by
    intro range writes
    have inner : List.replicate count '\\' = range.inner ++ [')'] :=
      List.tail_eq_of_cons_eq writes.1
    have last : ')' ∈ List.replicate count '\\' := by simp [inner]
    exact absurd (List.mem_replicate.1 last).2 (by decide)
  have value : OpensWithValue .contains (backslashes count ++ [])
      (.text .contains (String.ofList (backslashes count))) [] :=
    .bare (isBare_backslashes count) (fun _ none => nomatch none) fun _ => noRange
  rw [List.append_nil] at value
  have name : isBare ['a'] = true := by decide
  have consists : ConsistsOf ('a' :: ':' :: backslashes count)
      [.filter "a" (.text .contains (String.ofList (backslashes count)))] :=
    (Opens.filter name blank_nil value).consistsOf (.nil blank_nil)
  rw [← String.toList_ofList (l := 'a' :: ':' :: backslashes count)] at consists
  have one : '('.utf8Size = 1 ∧ 'a'.utf8Size = 1 ∧ ':'.utf8Size = 1 ∧ '\\'.utf8Size = 1 := by
    decide
  refine parse_eq_ok_iff.2 ⟨?_, _, _, consists, rfl, rfl⟩
  rw [utf8ByteSize_ofList]
  simp only [backslashes, utf8Length_cons, utf8Length_replicate, one]
  omega

theorem utf8ByteSize_backslashes (count : Nat) :
    (ofItems [.filter "a" (.text .contains
      (String.ofList (backslashes count)))]).text.utf8ByteSize = 2 * count + 5 := by
  have one : '('.utf8Size = 1 ∧ 'a'.utf8Size = 1 ∧ ':'.utf8Size = 1 ∧ '\\'.utf8Size = 1 := by
    decide
  have escaped : utf8Length ((List.replicate count '\\').flatMap quotedCharacter) = 2 * count := by
    induction count with
    | zero => rfl
    | succ count step =>
      rw [List.replicate_succ, List.flatMap_cons, utf8Length_append, step]
      simp only [quotedCharacter, or_true, if_true, utf8Length_cons, utf8Length_nil, one]
      omega
  have quoted : valueText (String.ofList (backslashes count)) =
      quotedForm (backslashes count) := by
    rw [valueText, String.toList_ofList, if_neg]
    simp [backslashes]
  have written : (ofItems [.filter "a" (.text .contains
      (String.ofList (backslashes count)))]).text.toList =
        'a' :: ':' :: quotedForm (backslashes count) := by
    have only : ∀ value, (ofItems [.filter "a" value]).items = [.filter "a" value] :=
      fun _ => rfl
    have field : "a".toList = ['a'] := by decide
    rw [toList_text, only, List.map_singleton, List.intercalate_singleton, itemText, filterText,
      field, quoted]
    rfl
  have plain : quotedCharacter '(' = ['('] := by decide
  rw [utf8ByteSize_eq, written, utf8Length_cons, utf8Length_cons, utf8Length_quotedForm,
    backslashes, List.flatMap_cons, utf8Length_append, escaped, plain]
  simp only [utf8Length_cons, utf8Length_nil, one]
  omega

/-- A query that was read is read back exactly when its text is not too long; too long it may be,
but not longer than twice the text that was read. -/
theorem parse_text_of_parse {text : String} {query : Query} (accepted : parse text = .ok query) :
    (parse query.text = .ok query ↔ query.text.utf8ByteSize ≤ maxLength) ∧
      (maxLength < query.text.utf8ByteSize → parse query.text = .error .tooLong) ∧
      query.text.utf8ByteSize ≤ 2 * text.utf8ByteSize := by
  have writable := isWritable_of_parse accepted
  have again : parse query.text = .ok query ↔ query.text.utf8ByteSize ≤ maxLength := by
    constructor
    · intro accepted
      exact (parse_eq_ok_iff.1 accepted).1
    · intro short
      exact parse_text_of_isWritable writable short
  refine ⟨again, fun long => if_pos long, ?_⟩
  obtain ⟨-, items, resolved, consists, same, rfl⟩ := parse_eq_ok_iff.1 accepted
  calc
    _ ≤ spacedSize (ofItems resolved).items := utf8ByteSize_text_le _
    _ ≤ spacedSize resolved := spacedSize_ofItems_le resolved
    _ ≤ 2 * utf8Length text.toList := consists.spacedSize_le same
    _ = 2 * text.utf8ByteSize := by rw [utf8ByteSize_eq]

/-- The text `a:(\` is read back with quotes. -/
theorem parse_text_one_backslash :
    ∃ query, parse (String.ofList ('a' :: ':' :: backslashes 1)) = .ok query ∧
      query.text.utf8ByteSize = 7 ∧ parse query.text = .ok query := by
  have accepted := parse_backslashes 1 (by decide)
  have size := utf8ByteSize_backslashes 1
  exact ⟨_, accepted, size, (parse_text_of_parse accepted).1.2 (size ▸ by decide)⟩

/-- A query of 5001 octets that is too long when it is written. -/
theorem parse_text_many_backslashes :
    ∃ query, parse (String.ofList ('a' :: ':' :: '(' :: List.replicate 4998 '\\')) = .ok query ∧
      parse query.text = .error .tooLong := by
  have size := utf8ByteSize_backslashes 4998
  refine ⟨_, parse_backslashes 4998 (by decide), if_pos ?_⟩
  rw [size]
  decide

end PeriodicalSearch.Query
