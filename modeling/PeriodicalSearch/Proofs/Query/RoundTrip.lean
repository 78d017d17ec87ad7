import PeriodicalSearch.Proofs.Query.FilterLookup
import PeriodicalSearch.Proofs.Query.Resolution

/-! Written queries are read back. The text of an item opens a text with that item as long as the
word ends behind it, so the text of a query consists of its items in the order in which they are
written. Only fields that are words and years of four digits can be written at all, and these are
the only ones that reading ever yields. -/

namespace PeriodicalSearch.Query

def Item.ofSetting (setting : String × FilterValue Date) : Item Date :=
  .filter setting.1 setting.2

def items (query : Query) : List (Item Date) :=
  query.terms.map .term ++ query.filters.entries.map .ofSetting

def itemText : Item Date → List Char
  | .term text => termText text
  | .filter field value => filterText field value

theorem itemTexts_eq (query : Query) : query.itemTexts = query.items.map itemText := by
  simp only [itemTexts, items, List.map_append, List.map_map, Function.comp_def, itemText,
    Item.ofSetting]

theorem ofItems_items (query : Query) : ofItems query.items = query := by
  have terms : query.items.filterMap Item.term? = query.terms := by
    simp [items, List.filterMap_append, List.filterMap_map, Function.comp_def, Item.term?,
      Item.ofSetting]
  have settings : query.items.filterMap Item.filter? = query.filters.entries := by
    simp [items, List.filterMap_append, List.filterMap_map, Function.comp_def, Item.filter?,
      Item.ofSetting]
  rw [ofItems, terms, settings, Filters.ofList_entries]

def Item.IsWritable : Item Date → Prop
  | .term _ => True
  | .filter field value =>
    isBare field.toList = true ∧ ∀ date ∈ value.days, date.HasPlainYear

/-- The fields are words, and the years of the days have four digits and no sign. -/
structure IsWritable (query : Query) : Prop where
  fields : ∀ entry ∈ query.filters.entries,
    entry.1 ≠ "" ∧ ∀ c ∈ entry.1.toList, isStrict c = true
  years : ∀ entry ∈ query.filters.entries, ∀ date ∈ entry.2.days, date.HasPlainYear

theorem isQuote_double : IsQuote '"' := .inr rfl

theorem closes_flatMap (word : List Char) (rest : Place) :
    Closes '"' (word.flatMap quotedCharacter ++ '"' :: rest) word rest := by
  induction word with
  | nil => exact .quote rest
  | cons c word step =>
    rw [List.flatMap_cons, List.append_assoc]
    by_cases escaped : c = '"' ∨ c = '\\'
    · rw [quotedCharacter, if_pos escaped]
      exact .escaped c step
    · obtain ⟨noQuote, noBackslash⟩ := not_or.1 escaped
      rw [quotedCharacter, if_neg escaped]
      exact .plain noQuote noBackslash step

theorem quotedText_flatMap (word : List Char) (rest : Place) :
    quotedText '"' (word.flatMap quotedCharacter ++ '"' :: rest) = some (word, rest) :=
  (closes_flatMap word rest).quotedText_eq isQuote_double

theorem opens_termText (term : String) {rest : Place} (ends : EndsWord rest) :
    Opens (termText term ++ rest) (.term term) rest := by
  unfold termText
  split
  next bare =>
    have opens := Opens.bare bare ends.endsRun ends.not_isDelimiter
    rw [String.ofList_toList] at opens
    exact opens
  next =>
    have opens := Opens.quoted isQuote_double (quotedText_flatMap term.toList rest)
    rw [String.ofList_toList] at opens
    simpa only [quotedForm, List.cons_append, List.append_assoc, List.nil_append] using opens

theorem opens_valueText (comparison : Comparison) (value : String) {rest : Place}
    (ends : EndsWord rest) :
    OpensWithValue comparison (valueText value ++ rest) (.text comparison value) rest := by
  unfold valueText
  split
  next plain =>
    rw [Bool.and_eq_true, bne_iff_ne] at plain
    have noRange : ∀ range, ¬ Range.Writes range value.toList := fun range writes =>
      plain.2 (by rw [writes.1]; rfl)
    have opens : OpensWithValue comparison _ _ rest :=
      .bare plain.1 ends.endsRun fun _ => noRange
    rw [String.ofList_toList] at opens
    exact opens
  next =>
    have opens : OpensWithValue comparison _ _ rest :=
      .quoted isQuote_double (quotedText_flatMap value.toList rest)
    rw [String.ofList_toList] at opens
    simpa only [quotedForm, List.cons_append, List.append_assoc, List.nil_append] using opens

theorem isForm_of_plain {range : Range Date} (plain : ∀ date ∈ range.days, date.HasPlainYear) :
    ∀ day ∈ (range.map Date.text).days, Date.IsForm day := by
  intro day member
  rw [Range.days_map] at member
  obtain ⟨date, inside, rfl⟩ := List.mem_map.1 member
  exact Date.isForm_text (plain date inside)

theorem literals_date? {range : Range Date} (plain : ∀ date ∈ range.days, date.HasPlainYear)
    (rest : Place) :
    (literals (range.map Date.text) rest).map DayLiteral.date? = range.map some := by
  have forms := isForm_of_plain plain
  apply Range.map_congr (literals_digits forms rest)
  intro literal member date same
  obtain ⟨day, behind, form, rfl, -⟩ := mem_literals forms member
  rw [DayLiteral.digits_at form] at same
  exact (DayLiteral.date?_at form behind date).2 same.symm

theorem opens_rangeText (comparison : Comparison) {range : Range Date}
    (plain : ∀ date ∈ range.days, date.HasPlainYear) {rest : Place} (ends : EndsWord rest) :
    OpensWithValue comparison (rangeText range ++ rest)
      (.range (literals (range.map Date.text) (')' :: rest))) rest := by
  apply OpensWithValue.range ⟨rangeText_eq_form range, ?_⟩ ends
  exact isForm_of_plain plain

theorem opens_itemText {item : Item Date} (writable : item.IsWritable) {rest : Place}
    (ends : EndsWord rest) :
    ∃ found, Opens (itemText item ++ rest) found rest ∧
      found.mapDay DayLiteral.date? = item.mapDay some := by
  cases item with
  | term text => exact ⟨.term text, opens_termText text ends, rfl⟩
  | filter field value =>
    cases value with
    | text comparison value =>
      have opens := Opens.filter writable.1 blank_nil (opens_valueText comparison value ends)
      rw [String.ofList_toList] at opens
      refine ⟨.filter field (.text comparison value), ?_, rfl⟩
      rw [itemText, filterText, List.append_assoc, List.cons_append]
      exact opens
    | range range =>
      have opens := Opens.filter writable.1 blank_nil (opens_rangeText .contains writable.2 ends)
      rw [String.ofList_toList] at opens
      refine ⟨.filter field (.range (literals (range.map Date.text) (')' :: rest))), ?_, ?_⟩
      · rw [itemText, filterText, List.append_assoc, List.cons_append]
        exact opens
      · rw [Item.mapDay, FilterValue.mapDay, literals_date? writable.2]
        rfl

theorem consistsOf_itemTexts {written : List (Item Date)}
    (writable : ∀ item ∈ written, item.IsWritable) :
    ∃ found, ConsistsOf (List.intercalate [' '] (written.map itemText)) found ∧
      found.map (Item.mapDay DayLiteral.date?) = written.map (Item.mapDay some) := by
  induction written with
  | nil => exact ⟨[], .nil blank_nil, rfl⟩
  | cons item written step =>
    have first := writable item List.mem_cons_self
    obtain ⟨others, consists, later⟩ := step fun other member =>
      writable other (List.mem_cons_of_mem _ member)
    cases written with
    | nil =>
      have atEnd : EndsWord [] := fun _ none => nomatch none
      obtain ⟨found, opens, same⟩ := opens_itemText first atEnd
      rw [List.append_nil] at opens
      rw [List.map_singleton, List.intercalate_singleton, List.map_singleton]
      exact ⟨[found], opens.consistsOf (.nil blank_nil), congrArg (fun item => [item]) same⟩
    | cons next written =>
      rw [List.map_cons, List.map_cons, List.intercalate_cons_cons, List.append_assoc]
      have space : Blank [' '] := fun c only => List.mem_singleton.1 only ▸ rfl
      have ends : ∀ later, EndsWord ([' '] ++ later) := fun later c head =>
        space c (List.mem_singleton.2 (Option.some.inj head).symm)
      obtain ⟨found, opens, same⟩ := opens_itemText first (ends _)
      refine ⟨found :: others, opens.consistsOf (consists.prepend space), ?_⟩
      rw [List.map_cons, later, List.map_cons, List.map_cons, same]
      rfl

theorem toList_text (query : Query) :
    query.text.toList = List.intercalate [' '] (query.items.map itemText) := by
  rw [text, String.toList_ofList, itemTexts_eq]

theorem IsWritable.items {query : Query} (writable : query.IsWritable) :
    ∀ item ∈ query.items, item.IsWritable := by
  intro item member
  rcases List.mem_append.1 member with term | filter
  · obtain ⟨term, -, rfl⟩ := List.mem_map.1 term
    exact trivial
  · obtain ⟨entry, inside, rfl⟩ := List.mem_map.1 filter
    obtain ⟨nonempty, strict⟩ := writable.fields entry inside
    have bare : entry.1.toList ≠ [] := fun none => nonempty (String.toList_eq_nil_iff.1 none)
    exact ⟨isBare_iff.2 ⟨bare, strict⟩, writable.years entry inside⟩

theorem parse_text_of_isWritable {query : Query} (writable : query.IsWritable)
    (short : query.text.utf8ByteSize ≤ maxLength) : parse query.text = .ok query := by
  obtain ⟨found, consists, same⟩ := consistsOf_itemTexts writable.items
  rw [← toList_text] at consists
  exact parse_eq_ok_iff.2 ⟨short, found, query.items, consists, same, (ofItems_items query).symm⟩

/-- The days of a range that is read have years of four digits, as only these have a text of the
form that is read. -/
theorem OpensWithValue.hasPlainYear {comparison : Comparison} {text rest : Place}
    {value : FilterValue DayLiteral} (opens : OpensWithValue comparison text value rest)
    {resolved : FilterValue Date}
    (same : value.mapDay DayLiteral.date? = resolved.mapDay some) :
    ∀ date ∈ resolved.days, date.HasPlainYear := by
  intro date member
  have days := congrArg FilterValue.days same
  rw [FilterValue.days_mapDay, FilterValue.days_mapDay] at days
  have dated := List.mem_map_of_mem (f := some) member
  rw [← days] at dated
  obtain ⟨literal, inside, found⟩ := List.mem_map.1 dated
  obtain ⟨day, behind, form, rfl, -⟩ := opens.mem_days inside
  exact Date.hasPlainYear_of_isForm ((DayLiteral.date?_at form behind date).1 found ▸ form)

theorem Opens.isWritable {text rest : Place} {item : Item DayLiteral}
    (opens : Opens text item rest) {resolved : Item Date}
    (same : item.mapDay DayLiteral.date? = resolved.mapDay some) : resolved.IsWritable := by
  cases resolved with
  | term => trivial
  | filter field value =>
    cases opens with
    | quoted => cases same
    | bare => cases same
    | filter name blank opens =>
      injection same with fields values
      constructor
      · rw [← fields, String.toList_ofList]
        exact name
      · exact opens.hasPlainYear values

theorem ConsistsOf.isWritable {text : Place} {items : List (Item DayLiteral)}
    (consists : ConsistsOf text items) {resolved : List (Item Date)}
    (same : items.map (Item.mapDay DayLiteral.date?) = resolved.map (Item.mapDay some)) :
    ∀ item ∈ resolved, item.IsWritable := by
  induction consists generalizing resolved with
  | nil =>
    cases resolved with
    | nil => exact fun _ member => nomatch member
    | cons => cases same
  | cons blank opens others step =>
    cases resolved with
    | nil => cases same
    | cons first resolved =>
      injection same with firsts later
      intro item member
      rcases List.mem_cons.1 member with rfl | inside
      · exact opens.isWritable firsts
      · exact step later item inside

theorem mem_of_mem_items_ofItems {items : List (Item Date)} {item : Item Date}
    (member : item ∈ (ofItems items).items) : item ∈ items := by
  rcases List.mem_append.1 member with term | filter
  · obtain ⟨text, listed, rfl⟩ := List.mem_map.1 term
    obtain ⟨item, inside, same⟩ := List.mem_filterMap.1 listed
    cases item <;> cases same
    exact inside
  · obtain ⟨setting, listed, rfl⟩ := List.mem_map.1 filter
    obtain ⟨item, inside, same⟩ := List.mem_filterMap.1 (Filters.mem_ofList listed)
    cases item <;> cases same
    exact inside

theorem isWritable_ofItems {resolved : List (Item Date)}
    (writable : ∀ item ∈ resolved, item.IsWritable) : (ofItems resolved).IsWritable := by
  have entries : ∀ entry ∈ (ofItems resolved).filters.entries,
      (Item.filter entry.1 entry.2).IsWritable := fun entry member =>
    writable _ (mem_of_mem_items_ofItems (List.mem_append_right _ (List.mem_map_of_mem member)))
  constructor
  · intro entry member
    obtain ⟨nonempty, strict⟩ := isBare_iff.1 (entries entry member).1
    exact ⟨fun none => nonempty (String.toList_eq_nil_iff.2 none), strict⟩
  · exact fun entry member => (entries entry member).2

theorem isWritable_of_parse {text : String} {query : Query} (accepted : parse text = .ok query) :
    query.IsWritable := by
  obtain ⟨-, items, resolved, consists, same, rfl⟩ := parse_eq_ok_iff.1 accepted
  exact isWritable_ofItems (consists.isWritable same)

/-- A written query is read back exactly when its fields are words, its years have four digits and
its text is not too long, and every query that is read has such fields and years. -/
theorem parse_text_eq_ok_iff :
    (∀ query : Query, parse query.text = .ok query ↔
      query.IsWritable ∧ query.text.utf8ByteSize ≤ maxLength) ∧
    ∀ text query, parse text = .ok query → query.IsWritable := by
  constructor
  · intro query
    constructor
    · intro accepted
      exact ⟨isWritable_of_parse accepted, (parse_eq_ok_iff.1 accepted).1⟩
    · intro ⟨writable, short⟩
      exact parse_text_of_isWritable writable short
  · intro text query accepted
    exact isWritable_of_parse accepted

end PeriodicalSearch.Query
