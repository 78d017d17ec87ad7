import PeriodicalSearch.Proofs.Query.UnclosedQuotes

/-! The position of a fault of the grammar is the end of the longest prefix that can still become a
query. What was read before it can be kept while the text behind it is replaced, since an item only
looks at the first character behind itself; so the prefix becomes a query when the rest is left out,
or when a value of one character stands in for the one that is missing, and it never does with the
delimiter at which the reading stopped. -/

namespace PeriodicalSearch.Query

/-- The text is accepted, or its only fault is a day that does not exist. -/
def Grammatical (text : String) : Prop :=
  (∃ query, parse text = .ok query) ∨
    ∃ literal octets, parse text = .error (.impossibleDate literal octets)

theorem grammatical_iff {text : String} :
    Grammatical text ↔
      text.utf8ByteSize ≤ maxLength ∧ ∃ items, ConsistsOf text.toList items := by
  constructor
  · rintro (⟨query, read⟩ | ⟨literal, octets, failed⟩)
    · obtain ⟨short, items, -, consists, -⟩ := parse_eq_ok_iff.1 read
      exact ⟨short, items, consists⟩
    · by_cases short : text.utf8ByteSize ≤ maxLength
      · cases rejects_of_parse short failed with
        | impossibleDate consists => exact ⟨short, _, consists⟩
      · rw [parse, if_pos (Nat.lt_of_not_le short)] at failed
        cases failed
  · rintro ⟨short, items, consists⟩
    cases result : parse text with
    | ok query => exact .inl ⟨query, result⟩
    | error fault =>
      cases rejects_of_parse short result with
      | unclosedQuote found =>
        rw [consists.unclosedQuote_eq_none] at found
        cases found
      | unexpectedEnd _ stops => exact absurd consists (stops.not_consistsOf items)
      | unexpected _ _ stops => exact absurd consists (stops.not_consistsOf items)
      | impossibleDate _ literal octets => exact .inr ⟨literal, octets, result⟩

def BeginsLike (place text : Place) : Prop := ∀ c ∈ text.head?, c ∈ place.head?

theorem BeginsLike.nil (place : Place) : BeginsLike place [] := fun _ member => nomatch member

theorem BeginsLike.append {place text : Place} (like : BeginsLike place text)
    (before : List Char) : BeginsLike (before ++ place) (before ++ text) := by
  cases before with
  | nil => exact like
  | cons c before => exact fun _ member => member

theorem BeginsLike.cons (c : Char) (place text : Place) : BeginsLike (c :: place) (c :: text) :=
  fun _ member => member

theorem quotedText_exists_before {quote : Char} (isQuote : IsQuote quote)
    {text body rest : List Char} (closed : quotedText quote text = some (body, rest)) :
    ∃ before, text = before ++ rest ∧
      ∀ other, quotedText quote (before ++ other) = some (body, other) := by
  obtain ⟨before, split, keeps⟩ := (closes_of_quotedText closed).exists_before
  exact ⟨before, split, fun other => (keeps other).quotedText_eq isQuote⟩

theorem OpensWithValue.exists_before {comparison : Comparison} {text rest : Place}
    {value : FilterValue DayLiteral} (opens : OpensWithValue comparison text value rest) :
    ∃ before, text = before ++ rest ∧ ∀ other, BeginsLike rest other →
      ∃ value, OpensWithValue comparison (before ++ other) value other := by
  cases opens with
  | @quoted quote text body rest isQuote closed =>
    obtain ⟨before, rfl, keeps⟩ := quotedText_exists_before isQuote closed
    exact ⟨quote :: before, rfl, fun other _ => ⟨_, .quoted isQuote (keeps other)⟩⟩
  | @range range word rest writes ends =>
    refine ⟨word, rfl, fun other like => ⟨_, .range writes ?_⟩⟩
    exact fun c member => ends c (like c member)
  | @bare run rest bare stops =>
    refine ⟨run, rfl, fun other like => exists_opensWithValue_of_bare comparison bare ?_⟩
    exact fun c member => stops c (like c member)

/-- Behind an item the text can be replaced by one that begins alike. The item may change: a word in
front of the end of the text can be a range. -/
theorem Opens.exists_before {text rest : Place} {item : Item DayLiteral}
    (opens : Opens text item rest) :
    ∃ before, text = before ++ rest ∧ ∀ other, BeginsLike rest other →
      ∃ item, Opens (before ++ other) item other := by
  cases opens with
  | @quoted quote text body rest isQuote closed =>
    obtain ⟨before, rfl, keeps⟩ := quotedText_exists_before isQuote closed
    exact ⟨quote :: before, rfl, fun other _ => ⟨_, .quoted isQuote (keeps other)⟩⟩
  | @bare run rest bare stops noField =>
    refine ⟨run, rfl, fun other like => ⟨_, .bare bare ?_ ?_⟩⟩
    · exact fun c member => stops c (like c member)
    · exact fun c member => noField c (like c member)
  | @filter field gap text rest comparison value name blank opens =>
    obtain ⟨before, rfl, keeps⟩ := opens.exists_before
    refine ⟨field ++ comparison.delimiter :: (gap ++ before), ?_, fun other like => ?_⟩
    · simp only [List.append_assoc, List.cons_append]
    · obtain ⟨value, opens⟩ := keeps other like
      refine ⟨.filter (String.ofList field) value, ?_⟩
      simp only [List.append_assoc, List.cons_append]
      exact .filter name blank opens

theorem consistsOf_value (comparison : Comparison) {field between : List Char}
    (name : isBare field = true) (spaced : Blank between) :
    ∃ items, ConsistsOf (field ++ comparison.delimiter :: (between ++ ['x'])) items := by
  have bare : isBare ['x'] = true := by decide
  have ends : EndsRun [] := fun c member => nomatch member
  obtain ⟨value, opens⟩ := exists_opensWithValue_of_bare comparison bare ends
  have item := Opens.filter name spaced opens
  exact ⟨_, item.consistsOf (.nil blank_nil)⟩

/-- Before the place at which the reading of a text stops, at most one character is missing. -/
theorem StopsAt.viable {text place : Place} (stops : StopsAt text place) :
    ∃ before more, text = before ++ place ∧ Text.utf8Length more ≤ 1 ∧
      BeginsLike text (before ++ more) ∧ ∃ items, ConsistsOf (before ++ more) items := by
  induction stops with
  | @item gap place blank =>
    refine ⟨gap, [], rfl, Nat.zero_le 1, (BeginsLike.nil place).append gap, [], ?_⟩
    rw [List.append_nil]
    exact .nil blank
  | @value gap field between place comparison blank name spaced =>
    obtain ⟨items, consists⟩ := consistsOf_value comparison name spaced
    have like := (BeginsLike.cons comparison.delimiter (between ++ place)
      (between ++ ['x'])).append field |>.append gap
    refine ⟨gap ++ (field ++ comparison.delimiter :: between), ['x'], ?_, ?_, ?_, items, ?_⟩
    · simp only [List.append_assoc, List.cons_append]
    · decide
    · simpa only [List.append_assoc, List.cons_append] using like
    · simpa only [List.append_assoc, List.cons_append] using consists.prepend blank
  | @later gap text rest place item blank opens stops step =>
    obtain ⟨front, rfl, keeps⟩ := opens.exists_before
    obtain ⟨before, more, rfl, one, like, items, consists⟩ := step
    obtain ⟨item, opens⟩ := keeps _ like
    refine ⟨gap ++ (front ++ before), more, ?_, one, ?_, item :: items, ?_⟩
    · simp only [List.append_assoc]
    · simpa only [List.append_assoc] using (like.append front).append gap
    · simpa only [List.append_assoc] using ConsistsOf.cons blank opens consists

/-- The delimiter at which the reading of a text stops stops it whatever is behind. -/
theorem StopsAt.hopeless {text place rest : Place} {c : Char} (stops : StopsAt text place)
    (begins : place = c :: rest) (sign : IsDelimiter c) :
    ∃ before, text = before ++ place ∧ ∀ more, StopsAt (before ++ c :: more) (c :: more) := by
  induction stops with
  | @item gap place blank =>
    exact ⟨gap, rfl, fun more => .item blank (.delimiter sign more) (List.cons_ne_nil c more)⟩
  | @value gap field between place comparison blank name spaced =>
    refine ⟨gap ++ (field ++ comparison.delimiter :: between), ?_, fun more => ?_⟩
    · simp only [List.append_assoc, List.cons_append]
    · have stuck : StopsAt (gap ++ (field ++ comparison.delimiter :: (between ++ c :: more)))
          (c :: more) := .value blank name spaced (.delimiter sign more)
      simpa only [List.append_assoc, List.cons_append] using stuck
  | @later gap text _ place item blank opens stops step =>
    obtain ⟨front, rfl, keeps⟩ := opens.exists_before
    obtain ⟨before, rfl, stuck⟩ := step begins
    refine ⟨gap ++ (front ++ before), by simp only [List.append_assoc], fun more => ?_⟩
    have like : BeginsLike (before ++ place) (before ++ c :: more) := by
      rw [begins]
      exact (BeginsLike.cons c rest more).append before
    obtain ⟨item, opens⟩ := keeps _ like
    simpa only [List.append_assoc] using StopsAt.later blank opens (stuck more)

/-- What is before the place can be continued to a grammatical text. -/
theorem StopsAt.exists_prefix {text : String} {place : Place} (short : text.utf8ByteSize < maxLength)
    (stops : StopsAt text.toList place) :
    ∃ before, text = before ++ String.ofList place ∧
      position text.toList place = before.utf8ByteSize ∧
      ∃ more, (before ++ more).utf8ByteSize ≤ maxLength ∧ Grammatical (before ++ more) := by
  obtain ⟨before, more, split, one, -, items, consists⟩ := stops.viable
  have whole : text = String.ofList before ++ String.ofList place := by
    rw [← String.ofList_append, ← split, String.ofList_toList]
  have size : (String.ofList before ++ String.ofList more).utf8ByteSize ≤ maxLength := by
    rw [whole, String.utf8ByteSize_append] at short
    rw [String.utf8ByteSize_append, Text.utf8ByteSize_ofList more]
    omega
  refine ⟨String.ofList before, whole, ?_, String.ofList more, size,
    grammatical_iff.2 ⟨size, items, ?_⟩⟩
  · rw [split, position_append_right, Text.utf8ByteSize_ofList]
  · rwa [String.toList_append, String.toList_ofList, String.toList_ofList]

/-- With the delimiter it cannot. -/
theorem StopsAt.not_grammatical {text before : String} {rest : List Char} {c : Char}
    (stops : StopsAt text.toList (c :: rest)) (sign : IsDelimiter c)
    (split : text = before ++ String.ofList (c :: rest)) (more : String) :
    ¬ Grammatical (before ++ String.singleton c ++ more) := by
  intro grammatical
  obtain ⟨front, same, stuck⟩ := stops.hopeless rfl sign
  rw [split, String.toList_append, String.toList_ofList] at same
  obtain rfl := List.append_cancel_right same
  obtain ⟨-, items, consists⟩ := grammatical_iff.1 grammatical
  rw [String.toList_append, String.toList_append, String.toList_singleton, List.append_assoc,
    List.singleton_append] at consists
  exact (stuck more.toList).not_consistsOf items consists

/-- A text with room for one more octet that is rejected for something unexpected is rejected at the
end of its longest viable prefix: what is before the position can be continued to a grammatical text,
and either nothing is behind it or a delimiter, which the reason names and with which it cannot. -/
theorem parse_unexpected_at_viable_prefix {text : String} {fault : Fault}
    (short : text.utf8ByteSize < maxLength) (failed : parse text = .error fault)
    (unexpected : "unexpected".toList <+: fault.reason.toList) :
    ∃ before place, text = before ++ place ∧ fault.position? = some before.utf8ByteSize ∧
      ((place = "" ∧ fault.reason = "unexpected end of query") ∨
        ∃ c behind, place = String.singleton c ++ behind ∧ (c = ':' ∨ c = '=') ∧
          fault.reason = "unexpected '" ++ String.singleton c ++ "'" ∧
          ∀ more, ¬ Grammatical (before ++ String.singleton c ++ more)) ∧
      ∃ more, (before ++ more).utf8ByteSize ≤ maxLength ∧ Grammatical (before ++ more) := by
  have rejects := rejects_of_parse short.le failed
  rcases Fault.eq_unexpected_of_reason unexpected with ⟨c, octets, rfl⟩ | ⟨octets, rfl⟩
  · cases rejects with
    | @unexpected c rest closed sign stops =>
      obtain ⟨before, split, octets, viable⟩ := stops.exists_prefix short
      refine ⟨before, String.ofList (c :: rest), split, congrArg some octets, .inr ?_, viable⟩
      exact ⟨c, String.ofList rest, String.ofList_cons, sign, rfl, stops.not_grammatical sign split⟩
  · cases rejects with
    | unexpectedEnd closed stops =>
      obtain ⟨before, split, octets, viable⟩ := stops.exists_prefix short
      exact ⟨before, String.ofList [], split, congrArg some octets, .inl ⟨rfl, rfl⟩, viable⟩

/-- Behind `a:b` a second colon is not expected, though the three characters begin a query. -/
theorem parse_unexpected_at_viable_prefix_colon :
    ∃ before place, "a:b:c" = before ++ place ∧ before.utf8ByteSize = 3 ∧
      (∃ more, Grammatical (before ++ more)) ∧ ∀ more, ¬ Grammatical (before ++ ":" ++ more) := by
  have failed : parse "a:b:c" = .error (.unexpected ':' 3) := by cbv
  have short : "a:b:c".utf8ByteSize < maxLength := by decide
  have reason : "unexpected".toList <+: (Fault.unexpected ':' 3).reason.toList := by decide
  obtain ⟨before, place, split, position, ends | ⟨c, behind, -, -, named, hopeless⟩, more, -,
    grammatical⟩ := parse_unexpected_at_viable_prefix short failed reason
  · exact absurd ends.2 (by decide)
  · have same : "unexpected '" ++ ":" ++ "'" = "unexpected '" ++ String.singleton c ++ "'" := named
    rw [String.append_left_inj, String.append_right_inj] at same
    rw [← same] at hopeless
    exact ⟨before, place, split, (Option.some.inj position).symm, ⟨more, grammatical⟩, hopeless⟩

end PeriodicalSearch.Query
