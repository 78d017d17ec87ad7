import PeriodicalSearch.Proofs.Query.Items

/-! From items to a query. The literals of the ranges are looked up in the calendar one by one; a
query is accepted when its text consists of items and the calendar has all of their days, and the
first literal without a day is the fault of a text that consists of items. -/

namespace PeriodicalSearch

variable {α β γ δ : Type}

/-- What agrees on the days of ranges with the same image agrees on the ranges. -/
theorem Range.map_congr {one : Range α} {other : Range β} {f : α → γ} {g : β → γ} {h : α → δ}
    {k : β → δ} (same : one.map f = other.map g)
    (agree : ∀ day ∈ one.days, ∀ partner, f day = g partner → h day = k partner) :
    one.map h = other.map k := by
  cases one with
  | between first last =>
    cases other with
    | between first' last' =>
      injection same with firsts lasts
      rw [map, map, agree first List.mem_cons_self first' firsts,
        agree last (List.mem_cons_of_mem _ List.mem_cons_self) last' lasts]
    | upTo => cases same
    | since => cases same
  | upTo last =>
    cases other with
    | between => cases same
    | upTo last' =>
      injection same with lasts
      rw [map, map, agree last List.mem_cons_self last' lasts]
    | since => cases same
  | since first =>
    cases other with
    | between => cases same
    | upTo => cases same
    | since first' =>
      injection same with firsts
      rw [map, map, agree first List.mem_cons_self first' firsts]

namespace FilterValue

def mapDay (f : α → β) : FilterValue α → FilterValue β
  | .text comparison value => .text comparison value
  | .range days => .range (days.map f)

def days : FilterValue α → List α
  | .text .. => []
  | .range days => days.days

theorem mapDay_congr {one : FilterValue α} {other : FilterValue β} {f : α → γ} {g : β → γ}
    {h : α → δ} {k : β → δ} (same : one.mapDay f = other.mapDay g)
    (agree : ∀ day ∈ one.days, ∀ partner, f day = g partner → h day = k partner) :
    one.mapDay h = other.mapDay k := by
  cases one with
  | text comparison value => cases other <;> cases same; rfl
  | range ranged =>
    cases other with
    | text => cases same
    | range ranged' =>
      injection same with ranges
      exact congrArg FilterValue.range (Range.map_congr ranges agree)

theorem days_mapDay (f : α → β) (value : FilterValue α) :
    (value.mapDay f).days = value.days.map f := by
  cases value with
  | text => rfl
  | range range => exact Range.days_map f range

end FilterValue

namespace Query

namespace Item

def mapDay (f : α → β) : Item α → Item β
  | .term text => .term text
  | .filter field value => .filter field (value.mapDay f)

def days : Item α → List α
  | .term _ => []
  | .filter _ value => value.days

theorem mapDay_congr {one : Item α} {other : Item β} {f : α → γ} {g : β → γ} {h : α → δ}
    {k : β → δ} (same : one.mapDay f = other.mapDay g)
    (agree : ∀ day ∈ one.days, ∀ partner, f day = g partner → h day = k partner) :
    one.mapDay h = other.mapDay k := by
  cases one with
  | term text => cases other <;> cases same; rfl
  | filter field value =>
    cases other with
    | term => cases same
    | filter field' value' =>
      injection same with fields values
      rw [mapDay, mapDay, fields, FilterValue.mapDay_congr values agree]

theorem map_mapDay_congr {items : List (Item α)} {others : List (Item β)} {f : α → γ} {g : β → γ}
    {h : α → δ} {k : β → δ} (same : items.map (mapDay f) = others.map (mapDay g))
    (agree : ∀ day ∈ items.flatMap days, ∀ partner, f day = g partner → h day = k partner) :
    items.map (mapDay h) = others.map (mapDay k) := by
  induction items generalizing others with
  | nil => cases others <;> cases same; rfl
  | cons item items step =>
    cases others with
    | nil => cases same
    | cons other others =>
      injection same with firsts later
      have first := mapDay_congr firsts fun day member =>
        agree day (List.mem_flatMap.2 ⟨item, List.mem_cons_self, member⟩)
      have rest := step later fun day member => by
        rw [List.flatMap_cons] at agree
        exact agree day (List.mem_append_right _ member)
      rw [List.map_cons, List.map_cons, first, rest]

theorem mapDay_mapDay (f : α → β) (g : β → γ) (item : Item α) :
    (item.mapDay f).mapDay g = item.mapDay fun day => g (f day) := by
  cases item with
  | term text => rfl
  | filter field value =>
    cases value with
    | text => rfl
    | range range => cases range <;> rfl

theorem mapDay_id : (mapDay id : Item α → Item α) = id := by
  funext item
  cases item with
  | term text => rfl
  | filter field value =>
    cases value with
    | text => rfl
    | range range => cases range <;> rfl

theorem days_mapDay (f : α → β) (item : Item α) : (item.mapDay f).days = item.days.map f := by
  cases item with
  | term text => rfl
  | filter field value => exact value.days_mapDay f

theorem flatMap_days_mapDay (f : α → β) (items : List (Item α)) :
    (items.map (mapDay f)).flatMap days = (items.flatMap days).map f := by
  rw [List.flatMap_map, List.map_flatMap]
  simp only [days_mapDay]

theorem filterMap_term? (f : α → β) (items : List (Item α)) :
    (items.map (mapDay f)).filterMap term? = items.filterMap term? := by
  rw [List.filterMap_map]
  congr 1
  funext item
  cases item <;> rfl

theorem filterMap_filter? (f : α → β) (items : List (Item α)) :
    (items.map (mapDay f)).filterMap filter? =
      (items.filterMap filter?).map fun setting => (setting.1, setting.2.mapDay f) := by
  rw [List.filterMap_map, List.map_filterMap]
  congr 1
  funext item
  cases item <;> rfl

end Item

def impossibleDay? (literals : List DayLiteral) : Option DayLiteral :=
  literals.find? fun literal => literal.date?.isNone

def impossibleFault (text : List Char) (literal : DayLiteral) : Fault :=
  .impossibleDate literal.text (position text literal.place)

/-- The result has the property when each of the literals names a day, and otherwise is the fault
of the first one that does not. -/
structure Resolves (text : List Char) (literals : List DayLiteral) (result : Except Fault α)
    (property : α → Prop) : Prop where
  possible : impossibleDay? literals = none → ∃ value, result = .ok value ∧ property value
  impossible : ∀ literal, impossibleDay? literals = some literal →
    result = .error (impossibleFault text literal)

variable {text : List Char} {property : α → Prop} {result : Except Fault α}

theorem Resolves.pure {value : α} (holds : property value) :
    Resolves text [] (pure value) property :=
  ⟨fun _ => ⟨value, rfl, holds⟩, fun _ none => nomatch none⟩

theorem Resolves.bind {one other : List DayLiteral} {first : Except Fault α}
    {next : α → Except Fault β} {later : β → Prop} (before : Resolves text one first property)
    (after : ∀ value, property value → Resolves text other (next value) later) :
    Resolves text (one ++ other) (first >>= next) later where
  possible none := by
    rw [impossibleDay?, List.find?_append, Option.or_eq_none_iff] at none
    obtain ⟨value, same, holds⟩ := before.possible none.1
    rw [same]
    exact (after value holds).possible none.2
  impossible literal found := by
    rw [impossibleDay?, List.find?_append, Option.or_eq_some_iff] at found
    rcases found with early | ⟨none, late⟩
    · rw [before.impossible literal early]
      rfl
    · obtain ⟨value, same, holds⟩ := before.possible none
      rw [same]
      exact (after value holds).impossible literal late

theorem Resolves.map {literals : List DayLiteral} {later : β → Prop} {f : α → β}
    (before : Resolves text literals result property)
    (after : ∀ value, property value → later (f value)) :
    Resolves text literals (result >>= fun value => Pure.pure (f value)) later := by
  have resolves := before.bind fun value holds => Resolves.pure (after value holds)
  rw [List.append_nil] at resolves
  exact resolves

theorem resolves_day (text : List Char) (literal : DayLiteral) :
    Resolves text [literal] (resolveDay text literal) fun date => literal.date? = some date := by
  unfold resolveDay
  cases found : literal.date? with
  | none =>
    refine ⟨fun none => ?_, fun other first => ?_⟩
    · simp [impossibleDay?, found] at none
    · simp only [impossibleDay?, List.find?_cons, found, Option.isNone_none, Option.some.injEq]
        at first
      rw [← first]
      rfl
  | some date =>
    refine ⟨fun _ => ⟨date, rfl, rfl⟩, fun other first => ?_⟩
    simp [impossibleDay?, found] at first

theorem resolves_range (text : List Char) (range : Range DayLiteral) :
    Resolves text range.days (resolveRange text range) fun resolved =>
      range.map DayLiteral.date? = resolved.map some := by
  cases range with
  | between first last =>
    apply (resolves_day text first).bind
    intro firstDate firstFound
    apply (resolves_day text last).map
    intro lastDate lastFound
    rw [Range.map, Range.map, firstFound, lastFound]
  | upTo last =>
    apply (resolves_day text last).map
    intro lastDate lastFound
    rw [Range.map, Range.map, lastFound]
  | since first =>
    apply (resolves_day text first).map
    intro firstDate firstFound
    rw [Range.map, Range.map, firstFound]

theorem resolves_item (text : List Char) (item : Item DayLiteral) :
    Resolves text item.days (resolveItem text item) fun resolved =>
      item.mapDay DayLiteral.date? = resolved.mapDay some := by
  cases item with
  | term term => exact .pure rfl
  | filter field value =>
    cases value with
    | text comparison value => exact .pure rfl
    | range range =>
      apply (resolves_range text range).map
      intro resolved same
      exact congrArg (fun days => Item.filter field (.range days)) same

theorem resolves_items (text : List Char) (items : List (Item DayLiteral)) :
    Resolves text (items.flatMap Item.days) (resolveItems text items) fun resolved =>
      items.map (Item.mapDay DayLiteral.date?) = resolved.map (Item.mapDay some) := by
  induction items with
  | nil => exact .pure rfl
  | cons item items step =>
    rw [List.flatMap_cons]
    apply (resolves_item text item).bind
    intro first firstSame
    apply step.map
    intro others othersSame
    rw [List.map_cons, List.map_cons, firstSame, othersSame]

theorem impossibleDay?_of_resolved {items : List (Item DayLiteral)} {resolved : List (Item Date)}
    (same : items.map (Item.mapDay DayLiteral.date?) = resolved.map (Item.mapDay some)) :
    impossibleDay? (items.flatMap Item.days) = none := by
  have dates := congrArg (List.flatMap Item.days) same
  rw [Item.flatMap_days_mapDay, Item.flatMap_days_mapDay] at dates
  apply List.find?_eq_none.2
  intro literal member
  have dated := List.mem_map_of_mem (f := DayLiteral.date?) member
  rw [dates] at dated
  obtain ⟨date, -, found⟩ := List.mem_map.1 dated
  rw [← found]
  exact Bool.false_ne_true

theorem resolveItems_eq_ok_iff {items : List (Item DayLiteral)} {resolved : List (Item Date)} :
    resolveItems text items = .ok resolved ↔
      items.map (Item.mapDay DayLiteral.date?) = resolved.map (Item.mapDay some) := by
  have resolves := resolves_items text items
  constructor
  · intro accepted
    cases found : impossibleDay? (items.flatMap Item.days) with
    | some literal =>
      rw [resolves.impossible literal found] at accepted
      cases accepted
    | none =>
      obtain ⟨others, result, same⟩ := resolves.possible found
      cases accepted.symm.trans result
      exact same
  · intro same
    have possible := impossibleDay?_of_resolved same
    obtain ⟨others, result, same'⟩ := resolves.possible possible
    have equal := Item.map_mapDay_congr (same'.symm.trans same) (h := id) (k := id)
      fun _ _ _ equal => Option.some.inj equal
    rw [Item.mapDay_id, List.map_id, List.map_id] at equal
    rw [result, equal]

theorem OpensWithValue.mem_days {comparison : Comparison} {text rest : Place}
    {value : FilterValue DayLiteral} (opens : OpensWithValue comparison text value rest)
    {literal : DayLiteral} (member : literal ∈ value.days) :
    ∃ day behind, Date.IsForm day ∧ literal = .at (day ++ behind) ∧ day ++ behind <:+ text := by
  cases opens with
  | quoted => cases member
  | bare => cases member
  | @range range word rest writes ends =>
    obtain ⟨rfl, forms⟩ := writes
    obtain ⟨day, behind, form, same, suffix⟩ := mem_literals forms member
    refine ⟨day, behind, form, same, suffix.trans ?_⟩
    simp only [Range.form, List.cons_append, List.append_assoc, List.nil_append,
      List.suffix_cons]

/-- Each literal stands in the text, at the place that it notes. -/
theorem ConsistsOf.mem_days {text : Place} {items : List (Item DayLiteral)}
    (consists : ConsistsOf text items) {literal : DayLiteral}
    (member : literal ∈ items.flatMap Item.days) :
    ∃ day behind, Date.IsForm day ∧ literal = .at (day ++ behind) ∧ day ++ behind <:+ text := by
  induction consists with
  | nil => cases member
  | cons blank opens others step =>
    rw [List.flatMap_cons] at member
    rcases List.mem_append.1 member with here | later
    · cases opens with
      | quoted => cases here
      | bare => cases here
      | filter name gap opens =>
        obtain ⟨day, behind, form, same, suffix⟩ := opens.mem_days here
        refine ⟨day, behind, form, same, suffix.trans ?_⟩
        exact (List.suffix_append ..).trans ((List.suffix_cons ..).trans
          ((List.suffix_append ..).trans (List.suffix_append ..)))
    · obtain ⟨day, behind, form, same, suffix⟩ := step later
      exact ⟨day, behind, form, same, suffix.trans (opens.suffix.trans (List.suffix_append ..))⟩

theorem parse_of_consistsOf {text : String} (short : text.utf8ByteSize ≤ maxLength)
    {items : List (Item DayLiteral)} (consists : ConsistsOf text.toList items) :
    parse text = (resolveItems text.toList items).map ofItems := by
  rw [parse, if_neg (Nat.not_lt.2 short), readItems_eq_ok_iff.2 consists]

theorem parse_of_refused {text : String} (short : text.utf8ByteSize ≤ maxLength) {place : Place}
    (refused : readItems text.toList = .error place) :
    parse text = .error (grammarFault text.toList place) := by
  rw [parse, if_neg (Nat.not_lt.2 short), refused]

theorem parse_eq_ok_iff {text : String} {query : Query} :
    parse text = .ok query ↔ text.utf8ByteSize ≤ maxLength ∧ ∃ items resolved,
      ConsistsOf text.toList items ∧
        items.map (Item.mapDay DayLiteral.date?) = resolved.map (Item.mapDay some) ∧
        query = ofItems resolved := by
  constructor
  · intro accepted
    by_cases long : maxLength < text.utf8ByteSize
    · rw [parse, if_pos long] at accepted
      cases accepted
    have short := Nat.not_lt.1 long
    cases read : readItems text.toList with
    | error place =>
      rw [parse_of_refused short read] at accepted
      cases accepted
    | ok items =>
      have consists := readItems_eq_ok_iff.1 read
      rw [parse_of_consistsOf short consists] at accepted
      cases result : resolveItems text.toList items with
      | error fault =>
        rw [result] at accepted
        cases accepted
      | ok resolved =>
        rw [result] at accepted
        cases accepted
        exact ⟨short, items, resolved, consists, resolveItems_eq_ok_iff.1 result, rfl⟩
  · intro found
    obtain ⟨short, items, resolved, consists, same, rfl⟩ := found
    rw [parse_of_consistsOf short consists, resolveItems_eq_ok_iff.2 same]
    rfl

/-- A text that is not too long is rejected for the furthest refusal of the grammar, or for the
first literal that names no day. -/
theorem parse_eq_error_iff {text : String} (short : text.utf8ByteSize ≤ maxLength)
    {fault : Fault} : parse text = .error fault ↔
      (∃ place, readItems text.toList = .error place ∧ fault = grammarFault text.toList place) ∨
      ∃ items literal, ConsistsOf text.toList items ∧
        impossibleDay? (items.flatMap Item.days) = some literal ∧
          fault = impossibleFault text.toList literal := by
  constructor
  · intro failed
    cases read : readItems text.toList with
    | error place =>
      rw [parse_of_refused short read] at failed
      cases failed
      exact .inl ⟨place, rfl, rfl⟩
    | ok items =>
      have consists := readItems_eq_ok_iff.1 read
      have resolves := resolves_items text.toList items
      rw [parse_of_consistsOf short consists] at failed
      cases found : impossibleDay? (items.flatMap Item.days) with
      | none =>
        obtain ⟨resolved, result, -⟩ := resolves.possible found
        rw [result] at failed
        cases failed
      | some literal =>
        rw [resolves.impossible literal found] at failed
        cases failed
        exact .inr ⟨items, literal, consists, found, rfl⟩
  · intro rejected
    rcases rejected with ⟨place, read, rfl⟩ | ⟨items, literal, consists, found, rfl⟩
    · exact parse_of_refused short read
    · rw [parse_of_consistsOf short consists,
        (resolves_items text.toList items).impossible literal found]
      rfl

end Query

end PeriodicalSearch
