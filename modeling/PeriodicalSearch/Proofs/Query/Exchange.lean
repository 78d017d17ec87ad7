import PeriodicalSearch.Proofs.Query.UnclosedQuotes

/-! Signs that stand for each other. The grammar has two quotes and two delimiters, and it treats
the two of a pair alike: with the signs of a pair exchanged throughout, a text is read in the same
steps and to the same places, and what is read has the signs exchanged too. Which quote it is means
nothing; a delimiter says how a text is compared, so that changes with it. -/

namespace PeriodicalSearch

def Filters.mapValue (f : FilterValue Date → FilterValue Date) (filters : Filters) : Filters where
  entries := filters.entries.map fun entry => (entry.1, f entry.2)
  sorted := List.pairwise_map.2 filters.sorted

theorem Filters.setEntry_map (f : FilterValue Date → FilterValue Date) (field : String)
    (value : FilterValue Date) (entries : List (String × FilterValue Date)) :
    setEntry field (f value) (entries.map fun entry => (entry.1, f entry.2)) =
      (setEntry field value entries).map fun entry => (entry.1, f entry.2) := by
  induction entries with
  | nil => rfl
  | cons entry entries step =>
    rw [List.map_cons, setEntry, setEntry]
    split
    · rfl
    · split
      · rfl
      · rw [step, List.map_cons]

theorem Filters.ofList_map (f : FilterValue Date → FilterValue Date)
    (settings : List (String × FilterValue Date)) :
    ofList (settings.map fun setting => (setting.1, f setting.2)) =
      (ofList settings).mapValue f := by
  induction settings using List.reverseRecOn with
  | nil => rfl
  | append_singleton settings setting step =>
    rw [List.map_append, List.map_singleton, ofList_concat, step, ofList_concat]
    exact entries_injective (setEntry_map f setting.1 setting.2 _)

namespace Query

inductive Exchange where
  | quotes
  | delimiters

namespace Exchange

/-- The other sign of the pair; any other character is left as it is. -/
def char : Exchange → Char → Char
  | .quotes, c => if c = '\'' then '"' else if c = '"' then '\'' else c
  | .delimiters, c => if c = ':' then '=' else if c = '=' then ':' else c

def inText (exchange : Exchange) (text : String) : String := text.map exchange.char

def inComparison : Exchange → Comparison → Comparison
  | .quotes, comparison => comparison
  | .delimiters, .contains => .equals
  | .delimiters, .equals => .contains

def inValue {day : Type} (exchange : Exchange) : FilterValue day → FilterValue day
  | .text comparison value => .text (exchange.inComparison comparison) (exchange.inText value)
  | .range range => .range range

def inItem {day : Type} (exchange : Exchange) : Item day → Item day
  | .term text => .term (exchange.inText text)
  | .filter field value => .filter field (exchange.inValue value)

def inLiteral (exchange : Exchange) (literal : DayLiteral) : DayLiteral :=
  { literal with place := literal.place.map exchange.char }

def inQuery (exchange : Exchange) (query : Query) : Query where
  terms := query.terms.map exchange.inText
  filters := query.filters.mapValue exchange.inValue

def inFault (exchange : Exchange) : Fault → Fault
  | .tooLong => .tooLong
  | .unclosedQuote octets => .unclosedQuote octets
  | .unexpected found octets => .unexpected (exchange.char found) octets
  | .unexpectedEnd octets => .unexpectedEnd octets
  | .impossibleDate literal octets => .impossibleDate literal octets

theorem position?_inFault (exchange : Exchange) (fault : Fault) :
    (exchange.inFault fault).position? = fault.position? := by
  cases fault <;> rfl

variable (exchange : Exchange)

theorem char_char (c : Char) : exchange.char (exchange.char c) = c := by
  cases exchange <;> simp only [char] <;> grind

theorem char_injective {c d : Char} (same : exchange.char c = exchange.char d) : c = d := by
  rw [← exchange.char_char c, same, char_char]

theorem char_of_plain {c : Char} (noQuote : ¬ IsQuote c) (noDelimiter : ¬ IsDelimiter c) :
    exchange.char c = c := by
  cases exchange with
  | quotes =>
    obtain ⟨single, double⟩ := not_or.1 noQuote
    rw [char, if_neg single, if_neg double]
  | delimiters =>
    obtain ⟨colon, equals⟩ := not_or.1 noDelimiter
    rw [char, if_neg colon, if_neg equals]

theorem isQuote_char {c : Char} (isQuote : IsQuote c) : IsQuote (exchange.char c) := by
  rcases isQuote with rfl | rfl <;> cases exchange <;> simp [char, IsQuote]

theorem isDelimiter_char {c : Char} (delimiter : IsDelimiter c) :
    IsDelimiter (exchange.char c) := by
  rcases delimiter with rfl | rfl <;> cases exchange <;> simp [char, IsDelimiter]

theorem char_backslash : exchange.char '\\' = '\\' := by cases exchange <;> rfl

theorem char_of_isStrict {c : Char} (strict : isStrict c = true) : exchange.char c = c :=
  have plain := isStrict_eq_true_iff.1 strict
  exchange.char_of_plain plain.2.1 plain.2.2

theorem char_of_isBlank {c : Char} (blank : Text.isBlank c = true) : exchange.char c = c := by
  refine exchange.char_of_plain (fun quote => ?_) (not_isDelimiter_of_isBlank blank)
  rw [quote.isBlank_eq_false] at blank
  cases blank

/-- What only holds of characters that are left as they are holds of no other character either. -/
theorem char_iff {property : Char → Prop} (fixes : ∀ c, property c → exchange.char c = c)
    (c : Char) : property (exchange.char c) ↔ property c := by
  constructor
  · intro holds
    have same := fixes _ holds
    rw [char_char] at same
    rwa [← same] at holds
  · intro holds
    rwa [fixes c holds]

theorem isStrict_char (c : Char) : isStrict (exchange.char c) = isStrict c :=
  Bool.eq_iff_iff.2 (exchange.char_iff (fun _ => exchange.char_of_isStrict) c)

theorem isBlank_char (c : Char) : Text.isBlank (exchange.char c) = Text.isBlank c :=
  Bool.eq_iff_iff.2 (exchange.char_iff (fun _ => exchange.char_of_isBlank) c)

theorem delimiter_inComparison (comparison : Comparison) :
    (exchange.inComparison comparison).delimiter = exchange.char comparison.delimiter := by
  cases exchange <;> cases comparison <;> rfl

theorem utf8Size_char (c : Char) : (exchange.char c).utf8Size = c.utf8Size := by
  by_cases sign : IsQuote c ∨ IsDelimiter c
  · rcases sign with (rfl | rfl) | (rfl | rfl) <;> cases exchange <;> rfl
  · rw [not_or] at sign
    rw [exchange.char_of_plain sign.1 sign.2]

theorem map_map_char (text : List Char) : (text.map exchange.char).map exchange.char = text := by
  simp only [List.map_map, Function.comp_def, char_char, List.map_id_fun', id]

theorem map_of_fixed {run : List Char} (fixed : ∀ c ∈ run, exchange.char c = c) :
    run.map exchange.char = run :=
  (List.map_congr_left fixed).trans (List.map_id run)

theorem map_of_blank {gap : List Char} (blank : Blank gap) : gap.map exchange.char = gap :=
  exchange.map_of_fixed fun c member => exchange.char_of_isBlank (blank c member)

theorem map_of_isStrict {run : List Char} (strict : ∀ c ∈ run, isStrict c = true) :
    run.map exchange.char = run :=
  exchange.map_of_fixed fun c member => exchange.char_of_isStrict (strict c member)

theorem map_of_isBare {run : List Char} (bare : isBare run = true) : run.map exchange.char = run :=
  exchange.map_of_isStrict (isBare_iff.1 bare).2

theorem map_of_isForm {day : List Char} (form : Date.IsForm day) : day.map exchange.char = day :=
  exchange.map_of_isStrict (Date.isStrict_of_isForm form)

theorem inText_ofList (text : List Char) :
    exchange.inText (String.ofList text) = String.ofList (text.map exchange.char) := by
  rw [← String.toList_inj, inText, String.toList_map, String.toList_ofList, String.toList_ofList]

theorem utf8Length_map (text : List Char) :
    Text.utf8Length (text.map exchange.char) = Text.utf8Length text := by
  induction text with
  | nil => rfl
  | cons c text step =>
    rw [List.map_cons, Text.utf8Length_cons, Text.utf8Length_cons, utf8Size_char, step]

theorem position_map (text place : Place) :
    position (text.map exchange.char) (place.map exchange.char) = position text place := by
  rw [position, position, utf8Length_map, utf8Length_map]

theorem utf8ByteSize_inText (text : String) :
    (exchange.inText text).utf8ByteSize = text.utf8ByteSize := by
  rw [Text.utf8ByteSize_eq, Text.utf8ByteSize_eq, inText, String.toList_map, utf8Length_map]

theorem endsRun_map {rest : Place} (stops : EndsRun rest) : EndsRun (rest.map exchange.char) := by
  cases rest with
  | nil => exact stops
  | cons c rest =>
    intro d member
    cases member
    rw [isStrict_char, stops c rfl]

theorem endsWord_map {rest : Place} : EndsWord (rest.map exchange.char) ↔ EndsWord rest := by
  cases rest with
  | nil => rfl
  | cons c rest =>
    simp only [EndsWord, List.map_cons, List.head?_cons, Option.mem_some_iff, forall_eq',
      isBlank_char]

theorem noField_map {rest : Place} (noField : ∀ c ∈ rest.head?, ¬ IsDelimiter c) :
    ∀ c ∈ (rest.map exchange.char).head?, ¬ IsDelimiter c := by
  cases rest with
  | nil => exact noField
  | cons c rest =>
    intro d member delimiter
    cases member
    exact noField c rfl (exchange.char_char c ▸ exchange.isDelimiter_char delimiter)

theorem closes_map {quote : Char} {text body rest : Place} (closes : Closes quote text body rest) :
    Closes (exchange.char quote) (text.map exchange.char) (body.map exchange.char)
      (rest.map exchange.char) := by
  induction closes with
  | quote rest => exact .quote _
  | escaped c later step =>
    rw [List.map_cons, char_backslash]
    exact .escaped _ step
  | @plain c text body rest noQuote noBackslash later step =>
    refine .plain (fun same => noQuote ?_) (fun same => noBackslash ?_) step
    · exact exchange.char_injective same
    · exact exchange.char_injective (same.trans exchange.char_backslash.symm)

theorem closes_of_map {quote : Char} {text body rest : Place}
    (closes : Closes (exchange.char quote) (text.map exchange.char) body rest) :
    Closes quote text (body.map exchange.char) (rest.map exchange.char) := by
  have back := exchange.closes_map closes
  rwa [char_char, map_map_char] at back

theorem quotedText_map {quote : Char} (isQuote : IsQuote quote) {text body : List Char}
    {rest : Place} (read : quotedText quote text = some (body, rest)) :
    quotedText (exchange.char quote) (text.map exchange.char) =
      some (body.map exchange.char, rest.map exchange.char) :=
  (exchange.closes_map (closes_of_quotedText read)).quotedText_eq (exchange.isQuote_char isQuote)

theorem quotedText_map_of_never {quote : Char} (isQuote : IsQuote quote) {text : Place}
    (never : quotedText quote text = none) :
    quotedText (exchange.char quote) (text.map exchange.char) = none := by
  refine Option.eq_none_iff_forall_ne_some.2 fun ⟨body, rest⟩ read => ?_
  have back := (exchange.closes_of_map (closes_of_quotedText read)).quotedText_eq isQuote
  cases never.symm.trans back

theorem leavesOpen_map {text place : Place} (leaves : LeavesOpen text place) :
    LeavesOpen (text.map exchange.char) (place.map exchange.char) := by
  induction leaves with
  | never isQuote never =>
    refine .never (exchange.isQuote_char isQuote) fun body rest closes => ?_
    exact never _ _ (exchange.closes_of_map closes)
  | closed isQuote closes later step =>
    exact .closed (exchange.isQuote_char isQuote) (exchange.closes_map closes) step
  | @outside c text place noQuote later step =>
    refine .outside (fun quote => noQuote ?_) step
    exact exchange.char_char c ▸ exchange.isQuote_char quote

theorem unclosedQuote_map (text : Place) :
    unclosedQuote (text.map exchange.char) =
      (unclosedQuote text).map (List.map exchange.char) := by
  cases found : unclosedQuote text with
  | some place =>
    exact unclosedQuote_eq_some_iff.2 (exchange.leavesOpen_map (unclosedQuote_eq_some_iff.1 found))
  | none =>
    refine Option.eq_none_iff_forall_ne_some.2 fun place found' => ?_
    have back := exchange.leavesOpen_map (unclosedQuote_eq_some_iff.1 found')
    rw [map_map_char, ← unclosedQuote_eq_some_iff, found] at back
    cases back

theorem at_map {day : List Char} (form : Date.IsForm day) (rest : Place) :
    DayLiteral.at (day ++ rest.map exchange.char) = exchange.inLiteral (.at (day ++ rest)) := by
  have place : day ++ rest.map exchange.char = (day ++ rest).map exchange.char := by
    rw [List.map_append, exchange.map_of_isForm form]
  rw [DayLiteral.at_of_isForm form rest, place]
  rfl

theorem literals_map {range : Range (List Char)} (forms : ∀ day ∈ range.days, Date.IsForm day)
    (rest : Place) : literals range (')' :: rest.map exchange.char) =
      (literals range (')' :: rest)).map exchange.inLiteral := by
  have comma : exchange.char ',' = ',' := exchange.char_of_isStrict rfl
  have closing : exchange.char ')' = ')' := exchange.char_of_isStrict rfl
  cases range with
  | between first last =>
    have firstForm := forms first List.mem_cons_self
    have lastForm := forms last (List.mem_cons_of_mem _ List.mem_cons_self)
    rw [literals, literals, Range.map, ← exchange.at_map firstForm, ← exchange.at_map lastForm]
    simp only [List.map_cons, List.map_append, comma, closing, exchange.map_of_isForm lastForm]
  | upTo last =>
    have lastForm := forms last List.mem_cons_self
    rw [literals, literals, Range.map, ← exchange.at_map lastForm, List.map_cons, closing]
  | since first =>
    have firstForm := forms first List.mem_cons_self
    rw [literals, literals, Range.map, ← exchange.at_map firstForm, List.map_cons, comma,
      List.map_cons, closing]

theorem opensWithValue_map {comparison : Comparison} {text rest : Place}
    {value : FilterValue DayLiteral} (opens : OpensWithValue comparison text value rest) :
    OpensWithValue (exchange.inComparison comparison) (text.map exchange.char)
      (exchange.inValue (value.mapDay exchange.inLiteral)) (rest.map exchange.char) := by
  cases opens with
  | quoted isQuote closed =>
    rw [FilterValue.mapDay, inValue, inText_ofList]
    exact .quoted (exchange.isQuote_char isQuote) (exchange.quotedText_map isQuote closed)
  | @range range word rest writes ends =>
    rw [FilterValue.mapDay, inValue, ← exchange.literals_map writes.2, List.map_append,
      exchange.map_of_isBare (isBare_of_writes writes)]
    exact .range writes (exchange.endsWord_map.2 ends)
  | bare bare stops noRange =>
    rw [FilterValue.mapDay, inValue, inText_ofList, List.map_append, exchange.map_of_isBare bare]
    exact .bare bare (exchange.endsRun_map stops) fun ends => noRange (exchange.endsWord_map.1 ends)

theorem opens_map {text rest : Place} {item : Item DayLiteral} (opens : Opens text item rest) :
    Opens (text.map exchange.char) (exchange.inItem (item.mapDay exchange.inLiteral))
      (rest.map exchange.char) := by
  cases opens with
  | quoted isQuote closed =>
    rw [Item.mapDay, inItem, inText_ofList]
    exact .quoted (exchange.isQuote_char isQuote) (exchange.quotedText_map isQuote closed)
  | bare bare stops noField =>
    rw [Item.mapDay, inItem, inText_ofList, List.map_append, exchange.map_of_isBare bare]
    exact .bare bare (exchange.endsRun_map stops) (exchange.noField_map noField)
  | filter name blank opens =>
    rw [Item.mapDay, inItem, List.map_append, exchange.map_of_isBare name, List.map_cons,
      ← delimiter_inComparison, List.map_append, exchange.map_of_blank blank]
    exact .filter name blank (exchange.opensWithValue_map opens)

theorem consistsOf_map {text : Place} {items : List (Item DayLiteral)}
    (consists : ConsistsOf text items) : ConsistsOf (text.map exchange.char)
      (items.map fun item => exchange.inItem (item.mapDay exchange.inLiteral)) := by
  induction consists with
  | nil blank =>
    rw [exchange.map_of_blank blank]
    exact .nil blank
  | cons blank opens others step =>
    rw [List.map_append, exchange.map_of_blank blank]
    exact .cons blank (exchange.opens_map opens) step

theorem blocked_map {place : Place} (blocked : Blocked place) :
    Blocked (place.map exchange.char) := by
  cases blocked with
  | finished => exact .finished
  | delimiter sign rest => exact .delimiter (exchange.isDelimiter_char sign) _
  | unclosed isQuote never =>
    exact .unclosed (exchange.isQuote_char isQuote) (exchange.quotedText_map_of_never isQuote never)

theorem stopsAt_map {text place : Place} (stops : StopsAt text place) :
    StopsAt (text.map exchange.char) (place.map exchange.char) := by
  induction stops with
  | item blank blocked unfinished =>
    rw [List.map_append, exchange.map_of_blank blank]
    refine .item blank (exchange.blocked_map blocked) fun finished => unfinished ?_
    exact List.map_eq_nil_iff.1 finished
  | value blank name spaced blocked =>
    rw [List.map_append, exchange.map_of_blank blank, List.map_append, exchange.map_of_isBare name,
      List.map_cons, ← delimiter_inComparison, List.map_append, exchange.map_of_blank spaced]
    exact .value blank name spaced (exchange.blocked_map blocked)
  | later blank opens stops step =>
    rw [List.map_append, exchange.map_of_blank blank]
    exact .later blank (exchange.opens_map opens) step

theorem grammarFault_map (text place : Place) :
    grammarFault (text.map exchange.char) (place.map exchange.char) =
      exchange.inFault (grammarFault text place) := by
  cases found : unclosedQuote text with
  | some quote =>
    simp only [grammarFault, unclosedQuote_map, found, Option.map_some, position_map, inFault]
  | none =>
    cases place with
    | nil =>
      simp only [grammarFault, unclosedQuote_map, found, Option.map_none, List.map_nil, position,
        utf8Length_map, inFault]
    | cons c place =>
      have same := exchange.position_map text (c :: place)
      rw [List.map_cons] at same
      simp only [grammarFault, unclosedQuote_map, found, Option.map_none, List.map_cons, same,
        inFault]

theorem impossibleDay?_map (literals : List DayLiteral) :
    impossibleDay? (literals.map exchange.inLiteral) =
      (impossibleDay? literals).map exchange.inLiteral :=
  List.find?_map

theorem impossibleFault_map {text : Place} {day rest : List Char} (form : Date.IsForm day) :
    impossibleFault (text.map exchange.char) (exchange.inLiteral (.at (day ++ rest))) =
      exchange.inFault (impossibleFault text (.at (day ++ rest))) := by
  have shown : (exchange.inLiteral (.at (day ++ rest))).text =
      (DayLiteral.at (day ++ rest)).text := by
    rw [← exchange.at_map form]
    exact congrArg String.ofList
      ((DayLiteral.digits_at form _).trans (DayLiteral.digits_at form rest).symm)
  rw [impossibleFault, shown]
  exact congrArg (Fault.impossibleDate _) (exchange.position_map text (day ++ rest))

theorem mapDay_inItem {α β : Type} (f : α → β) (item : Item α) :
    (exchange.inItem item).mapDay f = exchange.inItem (item.mapDay f) := by
  cases item with
  | term text => rfl
  | filter field value => cases value <;> rfl

theorem days_inItem {day : Type} (item : Item day) : (exchange.inItem item).days = item.days := by
  cases item with
  | term text => rfl
  | filter field value => cases value <;> rfl

theorem ofItems_map (items : List (Item Date)) :
    ofItems (items.map exchange.inItem) = exchange.inQuery (ofItems items) := by
  have terms : (items.map exchange.inItem).filterMap Item.term? =
      (items.filterMap Item.term?).map exchange.inText := by
    rw [List.filterMap_map, List.map_filterMap]
    refine List.filterMap_congr fun item _ => ?_
    cases item <;> rfl
  have filters : (items.map exchange.inItem).filterMap Item.filter? =
      (items.filterMap Item.filter?).map fun setting =>
        (setting.1, exchange.inValue setting.2) := by
    rw [List.filterMap_map, List.map_filterMap]
    refine List.filterMap_congr fun item _ => ?_
    cases item <;> rfl
  rw [ofItems, terms, filters, Filters.ofList_map]
  rfl

theorem parse_inText_of_ok {text : String} {query : Query} (accepted : parse text = .ok query) :
    parse (exchange.inText text) = .ok (exchange.inQuery query) := by
  obtain ⟨short, items, resolved, consists, same, rfl⟩ := parse_eq_ok_iff.1 accepted
  have read := exchange.consistsOf_map consists
  rw [← String.toList_map] at read
  refine parse_eq_ok_iff.2 ⟨?_, _, resolved.map exchange.inItem, read, ?_,
    (exchange.ofItems_map resolved).symm⟩
  · rwa [utf8ByteSize_inText]
  · have dates := congrArg (List.map exchange.inItem) same
    simp only [List.map_map, Function.comp_def, mapDay_inItem, Item.mapDay_mapDay] at dates ⊢
    exact dates

theorem parse_inText_of_error {text : String} {fault : Fault} (failed : parse text = .error fault) :
    parse (exchange.inText text) = .error (exchange.inFault fault) := by
  by_cases long : maxLength < text.utf8ByteSize
  · rw [parse, if_pos long] at failed
    rw [parse, utf8ByteSize_inText, if_pos long]
    cases failed
    rfl
  have short := Nat.not_lt.1 long
  have stays : (exchange.inText text).utf8ByteSize ≤ maxLength := by rwa [utf8ByteSize_inText]
  rw [parse_eq_error_iff stays, inText, String.toList_map]
  rcases (parse_eq_error_iff short).1 failed with ⟨place, refused, rfl⟩ |
    ⟨items, literal, consists, first, rfl⟩
  · refine .inl ⟨place.map exchange.char, ?_, (exchange.grammarFault_map _ _).symm⟩
    exact (exchange.stopsAt_map (readItems_eq_error_iff.1 refused)).readItems_eq
  · obtain ⟨day, rest, form, rfl, -⟩ := consists.mem_days (List.mem_of_find?_eq_some first)
    refine .inr ⟨_, _, exchange.consistsOf_map consists, ?_,
      (exchange.impossibleFault_map form).symm⟩
    have later := exchange.impossibleDay?_map (items.flatMap Item.days)
    rw [first, Option.map_some, ← Item.flatMap_days_mapDay] at later
    simpa only [List.flatMap_map, exchange.days_inItem] using later

end Exchange

/-- A text with the two quotes or the two delimiters exchanged throughout is accepted if and only if
the text is. Then it has the same fields and the same ranges of days; its terms and the values of
its other filters have the signs exchanged, and with the delimiters these filters compare the other
way. If the text is rejected, the other is rejected at the same position and for the same fault,
with the other sign where the fault names one. -/
theorem parse_exchanged (exchange : Exchange) (text : String) :
    ((∃ query, parse (exchange.inText text) = .ok query) ↔ ∃ query, parse text = .ok query) ∧
    (∀ query other, parse text = .ok query → parse (exchange.inText text) = .ok other →
      other.terms = query.terms.map exchange.inText ∧ other.filters.entries =
        query.filters.entries.map fun entry => (entry.1, exchange.inValue entry.2)) ∧
    ∀ fault other, parse text = .error fault → parse (exchange.inText text) = .error other →
      other.position? = fault.position? ∧ other = exchange.inFault fault := by
  refine ⟨⟨fun ⟨other, accepted⟩ => ?_, fun ⟨query, accepted⟩ => ?_⟩, ?_, ?_⟩
  · cases result : parse text with
    | ok query => exact ⟨query, rfl⟩
    | error fault => cases accepted.symm.trans (exchange.parse_inText_of_error result)
  · exact ⟨_, exchange.parse_inText_of_ok accepted⟩
  · intro query other accepted read
    cases read.symm.trans (exchange.parse_inText_of_ok accepted)
    exact ⟨rfl, rfl⟩
  · intro fault other failed refused
    cases refused.symm.trans (exchange.parse_inText_of_error failed)
    exact ⟨exchange.position?_inFault fault, rfl⟩

/-- The delimiter in the quoted value is exchanged too, and the one behind the field compares the
other way. -/
theorem parse_exchanged_delimiters :
    ∃ query, parse "name='b:c' \"d\"" = .ok query ∧ query.terms = ["d"] ∧
      query.filters.entries = [("name", .text .equals "b:c")] := by
  have accepted : parse "name:'b=c' \"d\"" =
      .ok (ofItems [.filter "name" (.text .contains "b=c"), .term "d"]) := by cbv
  have same : Exchange.delimiters.inText "name:'b=c' \"d\"" = "name='b:c' \"d\"" := by cbv
  obtain ⟨both, values, -⟩ := parse_exchanged .delimiters "name:'b=c' \"d\""
  obtain ⟨query, read⟩ := both.2 ⟨_, accepted⟩
  obtain ⟨terms, entries⟩ := values _ _ accepted read
  rw [same] at read
  refine ⟨query, read, terms.trans ?_, entries.trans ?_⟩
  · cbv
  · cbv

-- The fault names the sign that stands in the text.
example : parse "a:b:c" = .error (.unexpected ':' 3) := by cbv

example : parse "a=b=c" = .error (.unexpected '=' 3) := by cbv

end Query

end PeriodicalSearch
