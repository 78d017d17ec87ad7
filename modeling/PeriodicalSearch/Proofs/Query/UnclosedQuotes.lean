import PeriodicalSearch.Proofs.Query.Concatenation
import PeriodicalSearch.Proofs.Query.Stops

/-! Quotes that are never closed, in the search for them and in the grammar. The search goes over the
whole text without regard to items, while the grammar tries a filter and may read its field as a term
instead; yet neither loses the other, since the text that an item takes leaves no quote open. So a
text is rejected for an open quote exactly when the search finds one, and for that quote. -/

namespace PeriodicalSearch.Query

/-- In the text, read from left to right, the quote at the place opens and is never closed. A quote
opens where none is open and is closed by the next one of its kind, but a backslash between them
skips a character. -/
inductive LeavesOpen : Place → Place → Prop where
  | never {quote : Char} {text : List Char} (isQuote : IsQuote quote)
      (never : ∀ body rest, ¬ Closes quote text body rest) :
      LeavesOpen (quote :: text) (quote :: text)
  | closed {quote : Char} {text body rest place : List Char} (isQuote : IsQuote quote)
      (closes : Closes quote text body rest) (later : LeavesOpen rest place) :
      LeavesOpen (quote :: text) place
  | outside {c : Char} {text place : List Char} (noQuote : ¬ IsQuote c)
      (later : LeavesOpen text place) : LeavesOpen (c :: text) place

theorem closes_of_behindQuote {quote : Char} {text rest : Place}
    (closed : behindQuote quote text = some rest) : ∃ body, Closes quote text body rest := by
  fun_induction behindQuote quote text with
  | case1 => cases closed
  | case2 c tail step =>
    obtain ⟨body, later⟩ := step closed
    exact ⟨c :: body, .escaped c later⟩
  | case3 =>
    cases closed
    exact ⟨[], .quote _⟩
  | case4 c tail escape other step =>
    obtain ⟨body, later⟩ := step closed
    refine ⟨c :: body, .plain other (fun backslash => ?_) later⟩
    -- A backslash here is the last character, behind which nothing closes.
    cases tail with
    | nil => cases closed
    | cons d tail => exact escape d tail backslash rfl

theorem unclosedQuote_of_open {quote : Char} (isQuote : IsQuote quote) {text : Place}
    (open' : behindQuote quote text = none) :
    unclosedQuote (quote :: text) = some (quote :: text) := by
  have opening : quote = '\'' ∨ quote = '"' := isQuote
  rw [unclosedQuote, if_pos opening]
  split
  next closed => cases open'.symm.trans closed
  next => rfl

theorem unclosedQuote_eq_some_iff {text place : Place} :
    unclosedQuote text = some place ↔ LeavesOpen text place := by
  constructor
  · intro found
    fun_induction unclosedQuote text with
    | case1 => cases found
    | case2 c rest quote after closed step =>
      obtain ⟨body, closes⟩ := closes_of_behindQuote closed
      exact .closed quote closes (step found)
    | case3 c rest quote open' =>
      cases found
      refine .never quote fun body behind closes => ?_
      rw [closes.behindQuote_eq quote] at open'
      cases open'
    | case4 c rest other step => exact .outside other (step found)
  · intro leaves
    induction leaves with
    | @never quote text isQuote never =>
      have open' : behindQuote quote text = none := by
        apply Option.eq_none_iff_forall_ne_some.2
        intro rest closed
        obtain ⟨body, closes⟩ := closes_of_behindQuote closed
        exact never body rest closes
      exact unclosedQuote_of_open isQuote open'
    | closed isQuote closes later step =>
      rw [unclosedQuote_of_quotedText isQuote (closes.quotedText_eq isQuote), step]
    | outside noQuote later step =>
      rw [← List.singleton_append, unclosedQuote_of_unquoted, step]
      exact List.forall_mem_singleton.2 noQuote

theorem ConsistsOf.unclosedQuote_eq_none {text : Place} {items : List (Item DayLiteral)}
    (consists : ConsistsOf text items) : unclosedQuote text = none := by
  have ends : EndsWord [] := fun c member => nomatch member
  have whole := consists.unclosedQuote_append ends
  rw [List.append_nil] at whole
  rw [whole, unclosedQuote]

theorem StopsAt.blocked {text place : Place} (stops : StopsAt text place) : Blocked place := by
  induction stops with
  | item blank blocked => exact blocked
  | value blank name spaced blocked => exact blocked
  | later blank opens stops step => exact step

theorem StopsAt.unclosedQuote_eq {text place : Place} (stops : StopsAt text place) :
    unclosedQuote text = unclosedQuote place := by
  induction stops with
  | item blank => exact unclosedQuote_of_unquoted blank.unquoted _
  | value blank name spaced =>
    rw [unclosedQuote_of_unquoted blank.unquoted, unclosedQuote_of_field _ name spaced]
  | later blank opens stops step =>
    rw [unclosedQuote_of_unquoted blank.unquoted, opens.unclosedQuote_eq, step]

/-- Without an open quote the reading stops at the end of the text or at a delimiter. -/
theorem StopsAt.finished_or_delimiter {text place : Place} (stops : StopsAt text place)
    (closed : unclosedQuote text = none) :
    place = [] ∨ ∃ c rest, place = c :: rest ∧ IsDelimiter c := by
  rw [stops.unclosedQuote_eq] at closed
  cases stops.blocked with
  | finished => exact .inl rfl
  | @delimiter c sign rest => exact .inr ⟨c, rest, rfl, sign⟩
  | @unclosed quote rest isQuote never =>
    have leaves : LeavesOpen (quote :: rest) (quote :: rest) := by
      refine .never isQuote fun body behind closes => ?_
      rw [closes.quotedText_eq isQuote] at never
      cases never
    rw [unclosedQuote_eq_some_iff.2 leaves] at closed
    cases closed

namespace Fault

def initials : Fault → List Char
  | .tooLong => ['q', 'u', 'e']
  | .unclosedQuote _ => ['u', 'n', 't']
  | .unexpected .. | .unexpectedEnd _ => ['u', 'n', 'e']
  | .impossibleDate .. => ['i', 'n', 'v']

theorem begins_append {letters : List Char} {fixed : String}
    (begins : letters <+: fixed.toList) (more : String) : letters <+: (fixed ++ more).toList := by
  rw [String.toList_append]
  exact begins.trans (List.prefix_append ..)

theorem initials_prefix (fault : Fault) : fault.initials <+: fault.reason.toList := by
  cases fault with
  | tooLong =>
    have begins : ['q', 'u', 'e'] <+: "query is longer than ".toList := by decide
    exact begins_append (begins_append begins _) _
  | unclosedQuote octets =>
    change ['u', 'n', 't'] <+: "unterminated quoted string".toList
    decide
  | unexpected found octets =>
    have begins : ['u', 'n', 'e'] <+: "unexpected '".toList := by decide
    exact begins_append (begins_append begins _) _
  | unexpectedEnd octets =>
    change ['u', 'n', 'e'] <+: "unexpected end of query".toList
    decide
  | impossibleDate literal octets =>
    have begins : ['i', 'n', 'v'] <+: "invalid date '".toList := by decide
    exact begins_append (begins_append begins _) _

theorem initials_eq {fault : Fault} {letters : List Char} (three : letters.length = 3)
    (begins : letters <+: fault.reason.toList) : fault.initials = letters := by
  have length : fault.initials.length = letters.length := by
    rw [three]
    cases fault <;> rfl
  exact List.prefix_of_prefix_length_le fault.initials_prefix begins length.le |>.eq_of_length length

theorem eq_unclosedQuote_of_reason {fault : Fault}
    (unclosed : fault.reason = "unterminated quoted string") :
    ∃ octets, fault = .unclosedQuote octets := by
  have initials : fault.initials = ['u', 'n', 't'] := by
    apply initials_eq rfl
    rw [unclosed]
    decide
  cases fault with
  | unclosedQuote octets => exact ⟨octets, rfl⟩
  | _ => cases initials

theorem eq_unexpected_of_reason {fault : Fault}
    (unexpected : "unexpected".toList <+: fault.reason.toList) :
    (∃ found octets, fault = .unexpected found octets) ∨
      ∃ octets, fault = .unexpectedEnd octets := by
  have initials : fault.initials = ['u', 'n', 'e'] := by
    apply initials_eq rfl
    exact .trans (by decide) unexpected
  cases fault with
  | unexpected found octets => exact .inl ⟨found, octets, rfl⟩
  | unexpectedEnd octets => exact .inr ⟨octets, rfl⟩
  | _ => cases initials

end Fault

theorem position_append_right (before place : List Char) :
    position (before ++ place) place = Text.utf8Length before := by
  rw [position, Text.utf8Length_append, Nat.add_sub_cancel]

/-- A place of the text, as the number of octets before it. -/
theorem position_eq_iff {text : String} {place : Place} (suffix : place <:+ text.toList)
    {octets : Nat} : position text.toList place = octets ↔
      ∃ before, text = before ++ String.ofList place ∧ before.utf8ByteSize = octets := by
  obtain ⟨before, split⟩ := suffix
  have joined : text = String.ofList before ++ String.ofList place := by
    rw [← String.ofList_append, split, String.ofList_toList]
  rw [← split, position_append_right, ← Text.utf8ByteSize_ofList]
  constructor
  · exact fun same => ⟨String.ofList before, joined, same⟩
  · rintro ⟨other, same, size⟩
    rw [joined, String.append_left_inj] at same
    rw [same, size]

/-- The text is rejected for the fault: for a quote that is left open, else for the place at which
its reading stops, and for a day that does not exist only if it consists of items. -/
inductive Rejects (text : Place) : Fault → Prop where
  | unclosedQuote {quote : Place} (found : unclosedQuote text = some quote) :
      Rejects text (.unclosedQuote (position text quote))
  | unexpectedEnd (closed : Query.unclosedQuote text = none) (stops : StopsAt text []) :
      Rejects text (.unexpectedEnd (position text []))
  | unexpected {c : Char} {rest : Place} (closed : Query.unclosedQuote text = none)
      (sign : IsDelimiter c) (stops : StopsAt text (c :: rest)) :
      Rejects text (.unexpected c (position text (c :: rest)))
  | impossibleDate {items : List (Item DayLiteral)} (consists : ConsistsOf text items)
      (literal : String) (octets : Nat) : Rejects text (.impossibleDate literal octets)

theorem StopsAt.rejects {text place : Place} (stops : StopsAt text place) :
    Rejects text (grammarFault text place) := by
  unfold grammarFault
  split
  next quote found => exact .unclosedQuote found
  next closed =>
    rcases stops.finished_or_delimiter closed with rfl | ⟨c, rest, rfl, sign⟩
    · exact .unexpectedEnd closed stops
    · exact .unexpected closed sign stops

theorem rejects_of_parse {text : String} (short : text.utf8ByteSize ≤ maxLength) {fault : Fault}
    (failed : parse text = .error fault) : Rejects text.toList fault := by
  rcases (parse_eq_error_iff short).1 failed with ⟨place, read, rfl⟩ | ⟨items, _, consists, _, rfl⟩
  · exact (readItems_eq_error_iff.1 read).rejects
  · exact .impossibleDate consists _ _

theorem parse_eq_unclosedQuote_iff {text : String} (short : text.utf8ByteSize ≤ maxLength)
    {octets : Nat} : parse text = .error (.unclosedQuote octets) ↔
      ∃ quote, unclosedQuote text.toList = some quote ∧
        position text.toList quote = octets := by
  constructor
  · intro failed
    cases rejects_of_parse short failed with
    | unclosedQuote found => exact ⟨_, found, rfl⟩
  · rintro ⟨quote, found, rfl⟩
    rcases consistsOf_or_stopsAt text.toList with ⟨items, consists⟩ | ⟨place, stops⟩
    · rw [consists.unclosedQuote_eq_none] at found
      cases found
    · rw [parse_of_refused short stops.readItems_eq]
      simp only [grammarFault, found]

/-- Within the length that is read, a text is rejected for a quote that is not closed exactly when
the search for one finds it, and at the position of that quote. The quote that is found is the one
that reading from left to right leaves open. So a text that is accepted, or rejected for a date that
does not exist, leaves no quote open; and a text that leaves none open is never rejected for a quote,
neither as one that is not closed nor as a character that was not expected. -/
theorem parse_fails_at_open_quote {text : String} (short : text.utf8ByteSize ≤ maxLength) :
    (∀ octets, (∃ fault, parse text = .error fault ∧
        fault.reason = "unterminated quoted string" ∧ fault.position? = some octets) ↔
      ∃ before place, text = before ++ place ∧ before.utf8ByteSize = octets ∧
        unclosedQuote text.toList = some place.toList) ∧
    (∀ place, unclosedQuote text.toList = some place ↔ LeavesOpen text.toList place) ∧
    (∀ query, parse text = .ok query → unclosedQuote text.toList = none) ∧
    (∀ literal octets, parse text = .error (.impossibleDate literal octets) →
      unclosedQuote text.toList = none) ∧
    (unclosedQuote text.toList = none → ∀ fault, parse text = .error fault →
      fault.reason ≠ "unterminated quoted string" ∧
        ∀ found octets, fault = .unexpected found octets → ¬ IsQuote found) := by
  refine ⟨fun octets => ?_, fun place => unclosedQuote_eq_some_iff, ?_, ?_, fun closed fault failed =>
    ⟨fun reason => ?_, ?_⟩⟩
  · constructor
    · rintro ⟨fault, failed, reason, known⟩
      obtain ⟨_, rfl⟩ := Fault.eq_unclosedQuote_of_reason reason
      cases known
      obtain ⟨place, found, same⟩ := (parse_eq_unclosedQuote_iff short).1 failed
      obtain ⟨before, split, size⟩ := (position_eq_iff (suffix_of_unclosedQuote found)).1 same
      exact ⟨before, String.ofList place, split, size, by rw [found, String.toList_ofList]⟩
    · rintro ⟨before, place, split, size, found⟩
      refine ⟨.unclosedQuote octets, (parse_eq_unclosedQuote_iff short).2 ⟨_, found, ?_⟩, rfl, rfl⟩
      apply (position_eq_iff (suffix_of_unclosedQuote found)).2
      exact ⟨before, by rw [split, String.ofList_toList], size⟩
  · intro query read
    obtain ⟨-, items, -, consists, -⟩ := parse_eq_ok_iff.1 read
    exact consists.unclosedQuote_eq_none
  · intro literal octets failed
    cases rejects_of_parse short failed with
    | impossibleDate consists => exact consists.unclosedQuote_eq_none
  · obtain ⟨octets, rfl⟩ := Fault.eq_unclosedQuote_of_reason reason
    obtain ⟨place, found, -⟩ := (parse_eq_unclosedQuote_iff short).1 failed
    rw [closed] at found
    cases found
  · rintro found octets rfl quote
    cases rejects_of_parse short failed with
    | unexpected _ sign => exact quote.not_isDelimiter sign

/-- The first quote of `a 'b\'` is behind two octets, and the second one is skipped. -/
theorem parse_fails_at_open_quote_escaped :
    ∃ fault, parse "a 'b\\'" = .error fault ∧ fault.reason = "unterminated quoted string" ∧
      fault.position? = some 2 := by
  have short : "a 'b\\'".utf8ByteSize ≤ maxLength := by decide
  apply ((parse_fails_at_open_quote short).1 2).2
  have found : unclosedQuote "a 'b\\'".toList = some "'b\\'".toList := by
    have run : ∀ c ∈ "a ".toList, ¬ IsQuote c := by simp [IsQuote]
    have open' : behindQuote '\'' "b\\'".toList = none := by decide
    exact (unclosedQuote_of_unquoted run _).trans (unclosedQuote_of_open (.inl rfl) open')
  exact ⟨"a ", "'b\\'", by decide, by decide, found⟩

end PeriodicalSearch.Query
