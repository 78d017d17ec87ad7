import PeriodicalSearch.Proofs.Query.FilterLookup
import PeriodicalSearch.Proofs.Query.Octets
import PeriodicalSearch.Proofs.Query.OpenQuotes
import PeriodicalSearch.Proofs.Query.Resolution

/-! Queries behind each other. No item of an accepted text reaches into what follows a blank, and no
quote stays open, so reading goes on behind the blank as if the text began there; only the places
of its literals and the positions of its faults lie further on. -/

namespace PeriodicalSearch.Query

def DayLiteral.extend (more : Place) (literal : DayLiteral) : DayLiteral :=
  { literal with place := literal.place ++ more }

theorem EndsWord.endsRun_append {rest more : Place} (ends : EndsWord more) (stops : EndsRun rest) :
    EndsRun (rest ++ more) := by
  cases rest with
  | nil => exact ends.endsRun
  | cons c rest => exact stops

theorem EndsWord.append_iff {rest more : Place} (ends : EndsWord more) :
    EndsWord (rest ++ more) ↔ EndsWord rest := by
  cases rest with
  | nil => exact ⟨fun _ c none => (nomatch none), fun _ => ends⟩
  | cons c rest => exact Iff.rfl

theorem EndsWord.noField_append {rest more : Place} (ends : EndsWord more)
    (noField : ∀ c ∈ rest.head?, ¬ IsDelimiter c) :
    ∀ c ∈ (rest ++ more).head?, ¬ IsDelimiter c := by
  cases rest with
  | nil => exact ends.not_isDelimiter
  | cons c rest => exact noField

theorem Closes.append {quote : Char} {text body rest : List Char}
    (closes : Closes quote text body rest) (more : Place) :
    Closes quote (text ++ more) body (rest ++ more) := by
  obtain ⟨before, rfl, keeps⟩ := closes.exists_before
  rw [List.append_assoc]
  exact keeps (rest ++ more)

theorem quotedText_append {quote : Char} (isQuote : IsQuote quote) {text body : List Char}
    {rest : Place} (closed : quotedText quote text = some (body, rest)) (more : Place) :
    quotedText quote (text ++ more) = some (body, rest ++ more) :=
  ((closes_of_quotedText closed).append more).quotedText_eq isQuote

theorem DayLiteral.at_extend {day : List Char} (form : Date.IsForm day) (rest more : Place) :
    DayLiteral.at (day ++ (rest ++ more)) = (DayLiteral.at (day ++ rest)).extend more := by
  rw [DayLiteral.at_of_isForm form rest, ← List.append_assoc]
  rfl

theorem literals_append {range : Range (List Char)} (forms : ∀ day ∈ range.days, Date.IsForm day)
    (rest more : Place) :
    literals range (rest ++ more) = (literals range rest).map (DayLiteral.extend more) := by
  cases range with
  | between first last =>
    have firstForm := forms first List.mem_cons_self
    have lastForm := forms last (List.mem_cons_of_mem _ List.mem_cons_self)
    rw [literals, literals, Range.map, ← DayLiteral.at_extend lastForm,
      ← DayLiteral.at_extend firstForm, List.cons_append, List.append_assoc]
  | upTo last =>
    rw [literals, literals, Range.map, DayLiteral.at_extend (forms last List.mem_cons_self)]
  | since first =>
    rw [literals, literals, Range.map, ← DayLiteral.at_extend (forms first List.mem_cons_self),
      List.cons_append]

theorem OpensWithValue.append {comparison : Comparison} {text rest more : Place}
    {value : FilterValue DayLiteral} (opens : OpensWithValue comparison text value rest)
    (ends : EndsWord more) :
    OpensWithValue comparison (text ++ more) (value.mapDay (DayLiteral.extend more))
      (rest ++ more) := by
  cases opens with
  | quoted isQuote closed => exact .quoted isQuote (quotedText_append isQuote closed more)
  | range writes stops =>
    rw [FilterValue.mapDay, ← literals_append writes.2, List.append_assoc]
    exact .range writes (ends.append_iff.2 stops)
  | bare bare stops noRange =>
    rw [List.append_assoc]
    exact .bare bare (ends.endsRun_append stops) fun word => noRange (ends.append_iff.1 word)

/-- An item opens a text that goes on behind a blank just as well. -/
theorem Opens.append {text rest more : Place} {item : Item DayLiteral}
    (opens : Opens text item rest) (ends : EndsWord more) :
    Opens (text ++ more) (item.mapDay (DayLiteral.extend more)) (rest ++ more) := by
  cases opens with
  | quoted isQuote closed => exact .quoted isQuote (quotedText_append isQuote closed more)
  | bare bare stops noField =>
    rw [List.append_assoc]
    exact .bare bare (ends.endsRun_append stops) (ends.noField_append noField)
  | filter name blank opens =>
    rw [List.append_assoc, List.cons_append, List.append_assoc]
    exact .filter name blank (opens.append ends)

theorem ConsistsOf.readItems_append {text more : Place} {items : List (Item DayLiteral)}
    (consists : ConsistsOf text items) (ends : EndsWord more) :
    readItems (text ++ more) =
      (readItems more).map (items.map (Item.mapDay (DayLiteral.extend more)) ++ ·) := by
  induction consists with
  | nil blank =>
    rw [readItems_of_blank blank]
    cases readItems more <;> rfl
  | cons blank opens others step =>
    rw [List.append_assoc, readItems_of_opens blank (opens.append ends), step]
    cases readItems more <;> rfl

theorem ConsistsOf.unclosedQuote_append {text more : Place} {items : List (Item DayLiteral)}
    (consists : ConsistsOf text items) (ends : EndsWord more) :
    unclosedQuote (text ++ more) = unclosedQuote more := by
  induction consists with
  | nil blank => exact unclosedQuote_of_unquoted blank.unquoted more
  | cons blank opens others step =>
    rw [List.append_assoc, unclosedQuote_of_unquoted blank.unquoted,
      (opens.append ends).unclosedQuote_eq, step]

theorem ofItems_append (one other : List (Item Date)) :
    (ofItems (one ++ other)).terms = (ofItems one).terms ++ (ofItems other).terms ∧
      ∀ field, (ofItems (one ++ other)).filters.get? field =
        ((ofItems other).filters.get? field).or ((ofItems one).filters.get? field) := by
  constructor
  · exact List.filterMap_append
  intro field
  simp only [ofItems, Filters.get?_ofList, List.filterMap_append, List.reverse_append,
    List.lookup_append]

theorem map_date?_extend (more : Place) (items : List (Item DayLiteral)) :
    (items.map (Item.mapDay (DayLiteral.extend more))).map (Item.mapDay DayLiteral.date?) =
      items.map (Item.mapDay DayLiteral.date?) := by
  rw [List.map_map]
  exact List.map_congr_left fun item _ => Item.mapDay_mapDay _ _ item

theorem endsWord_of_blank {gap : List Char} (nonempty : gap ≠ []) (blank : Blank gap)
    (more : List Char) : EndsWord (gap ++ more) := by
  cases gap with
  | nil => exact absurd rfl nonempty
  | cons c gap => exact fun d head => blank d (Option.some.inj head ▸ List.mem_cons_self)

theorem position?_of_short {text : String} (short : text.utf8ByteSize ≤ maxLength)
    {fault : Fault} (failed : parse text = .error fault) :
    ∃ position, fault.position? = some position := by
  rcases (parse_eq_error_iff short).1 failed with ⟨place, -, rfl⟩ | ⟨_, literal, -, -, rfl⟩
  · unfold grammarFault
    split
    · exact ⟨_, rfl⟩
    · split <;> exact ⟨_, rfl⟩
  · exact ⟨_, rfl⟩

section

variable {first gap : String} {query : Query} (accepted : parse first = .ok query)
  (nonempty : gap ≠ "") (blank : Blank gap.toList)
include accepted nonempty blank

/-- Behind an accepted text and blanks a text is read as it is read alone. -/
theorem readItems_behind (second : String) :
    ∃ items resolved, items.map (Item.mapDay DayLiteral.date?) = resolved.map (Item.mapDay some) ∧
      query = ofItems resolved ∧
        readItems (first ++ gap ++ second).toList =
          (readItems second.toList).map (items ++ ·) := by
  obtain ⟨-, items, resolved, consists, same, rfl⟩ := parse_eq_ok_iff.1 accepted
  have gapNonempty : gap.toList ≠ [] := fun none => nonempty (String.toList_eq_nil_iff.1 none)
  have ends := endsWord_of_blank gapNonempty blank second.toList
  refine ⟨items.map (Item.mapDay (DayLiteral.extend (gap.toList ++ second.toList))), resolved,
    (map_date?_extend _ items).trans same, rfl, ?_⟩
  rw [String.toList_append, String.toList_append, List.append_assoc,
    consists.readItems_append ends, readItems_of_blank blank]

theorem unclosedQuote_behind (second : String) :
    unclosedQuote (first ++ gap ++ second).toList = unclosedQuote second.toList := by
  obtain ⟨-, items, resolved, consists, -, -⟩ := parse_eq_ok_iff.1 accepted
  have gapNonempty : gap.toList ≠ [] := fun none => nonempty (String.toList_eq_nil_iff.1 none)
  have ends := endsWord_of_blank gapNonempty blank second.toList
  rw [String.toList_append, String.toList_append, List.append_assoc,
    consists.unclosedQuote_append ends, unclosedQuote_of_unquoted blank.unquoted]

variable {second : String} (short : (first ++ gap ++ second).utf8ByteSize ≤ maxLength)
include short

theorem parse_behind_ok {later : Query} (acceptedLater : parse second = .ok later) :
    ∃ joined, parse (first ++ gap ++ second) = .ok joined ∧
      joined.terms = query.terms ++ later.terms ∧
        ∀ field, joined.filters.get? field =
          (later.filters.get? field).or (query.filters.get? field) := by
  obtain ⟨items, resolved, same, rfl, read⟩ := readItems_behind accepted nonempty blank second
  obtain ⟨-, others, resolvedOthers, consists, sameOthers, rfl⟩ :=
    parse_eq_ok_iff.1 acceptedLater
  rw [readItems_eq_ok_iff.2 consists] at read
  refine ⟨ofItems (resolved ++ resolvedOthers), parse_eq_ok_iff.2 ⟨short, items ++ others,
    resolved ++ resolvedOthers, readItems_eq_ok_iff.1 read, ?_, rfl⟩,
      ofItems_append resolved resolvedOthers⟩
  rw [List.map_append, List.map_append, same, sameOthers]

theorem parse_behind_error {fault : Fault} (failed : parse second = .error fault) :
    parse (first ++ gap ++ second) =
      .error (fault.moved (first.utf8ByteSize + gap.utf8ByteSize)) := by
  obtain ⟨items, resolved, same, -, read⟩ := readItems_behind accepted nonempty blank second
  have quotes := unclosedQuote_behind accepted nonempty blank second
  have octets : first.utf8ByteSize + gap.utf8ByteSize =
      Text.utf8Length (first.toList ++ gap.toList) := by
    rw [Text.utf8ByteSize_eq, Text.utf8ByteSize_eq, Text.utf8Length_append]
  have whole : (first ++ gap ++ second).toList =
      (first.toList ++ gap.toList) ++ second.toList := by
    rw [String.toList_append, String.toList_append]
  have shortSecond : second.utf8ByteSize ≤ maxLength := by
    rw [String.utf8ByteSize_append] at short
    omega
  rw [octets]
  apply (parse_eq_error_iff short).2
  rw [whole] at read quotes ⊢
  -- The second text breaks the grammar or names a day that does not exist. In the whole text the
  -- same place is reached, since the items of the first have no fault of their own.
  rcases (parse_eq_error_iff shortSecond).1 failed with
    ⟨place, refused, rfl⟩ | ⟨others, literal, consists, found, rfl⟩
  · rw [refused] at read
    exact .inl ⟨place, read, (grammarFault_append (suffix_of_readItems refused) quotes
      fun quote found => suffix_of_unclosedQuote found).symm⟩
  · rw [readItems_eq_ok_iff.2 consists] at read
    have suffix : literal.place <:+ second.toList := by
      obtain ⟨day, behind, -, rfl, suffix⟩ := consists.mem_days (List.mem_of_find?_eq_some found)
      exact suffix
    refine .inr ⟨items ++ others, literal, readItems_eq_ok_iff.1 read, ?_, ?_⟩
    · rw [impossibleDay?, List.flatMap_append, List.find?_append, ← impossibleDay?,
        impossibleDay?_of_resolved same, Option.none_or]
      exact found
    · exact congrArg (Fault.impossibleDate _) (position_append suffix _).symm

end

/-- What stands behind an accepted text and blanks is read as it is read alone: its terms come
last, its filters count, and its fault is the fault of the whole text. -/
theorem parse_append {first gap second : String} {query : Query}
    (accepted : parse first = .ok query) (nonempty : gap ≠ "")
    (blank : ∀ c ∈ gap.toList, Text.isBlank c = true)
    (short : (first ++ gap ++ second).utf8ByteSize ≤ maxLength) :
    (∀ later, parse second = .ok later →
      ∃ joined, parse (first ++ gap ++ second) = .ok joined ∧
        joined.terms = query.terms ++ later.terms ∧
          ∀ field, joined.filters.get? field =
            (later.filters.get? field).or (query.filters.get? field)) ∧
    ∀ fault, parse second = .error fault →
      ∃ moved position, parse (first ++ gap ++ second) = .error moved ∧
        moved.reason = fault.reason ∧ fault.position? = some position ∧
          moved.position? = some (first.utf8ByteSize + gap.utf8ByteSize + position) := by
  constructor
  · intro later acceptedLater
    exact parse_behind_ok accepted nonempty blank short acceptedLater
  intro fault failed
  have failedWhole := parse_behind_error accepted nonempty blank short failed
  have shortSecond : second.utf8ByteSize ≤ maxLength := by
    rw [String.utf8ByteSize_append] at short
    omega
  obtain ⟨position, known⟩ := position?_of_short shortSecond failed
  refine ⟨_, position, failedWhole, Fault.reason_moved _ fault, known, ?_⟩
  rw [Fault.position?_moved, known, Option.map_some]

/-- Behind `at:x` and an ideographic space, a term is added and an open filter fails 7 octets on. -/
theorem parse_append_ideographic_space :
    (∃ joined, parse ("at:x" ++ "\u3000" ++ "y") = .ok joined ∧ joined.terms = ["y"] ∧
      joined.filters.get? "at" = some (.text .contains "x")) ∧
    ∃ fault, parse ("at:x" ++ "\u3000" ++ "at:") = .error fault ∧
      fault.reason = "unexpected end of query" ∧ fault.position? = some 10 := by
  have first : parse "at:x" = .ok (ofItems [.filter "at" (.text .contains "x")]) := by cbv
  have term : parse "y" = .ok (ofItems [.term "y"]) := by cbv
  have unfinished : parse "at:" = .error (.unexpectedEnd 3) := by cbv
  have blank : ∀ c ∈ "\u3000".toList, Text.isBlank c = true := List.all_eq_true.1 (by decide)
  constructor
  · obtain ⟨joined, accepted, terms, filters⟩ :=
      (parse_append first (by decide) blank (by decide)).1 _ term
    exact ⟨joined, accepted, terms, filters "at"⟩
  · obtain ⟨fault, position, failed, reason, known, moved⟩ :=
      (parse_append first (by decide) blank (by decide)).2 _ unfinished
    cases known
    exact ⟨fault, failed, reason, moved⟩

end PeriodicalSearch.Query
