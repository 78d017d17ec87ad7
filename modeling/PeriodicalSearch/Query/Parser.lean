import PeriodicalSearch.Query.Fault
import PeriodicalSearch.Query.Grammar
import PeriodicalSearch.Query.Quotes
import PeriodicalSearch.Text.Utf8

/-!
Reading search queries. A query is cut into items by the grammar, and then the days of its ranges
are looked up in the calendar. Where the grammar refuses a query, a quote that is never closed is
reported first; otherwise the furthest place at which a rule was refused.
-/
namespace PeriodicalSearch.Query

theorem length_quotedText_lt {quote : Char} {text body : List Char} {rest : Place}
    (read : quotedText quote text = some (body, rest)) : rest.length < text.length := by
  fun_induction quotedText quote text generalizing body with
  | case1 => cases read
  | case2 c tail step =>
    obtain ⟨⟨inner, place⟩, before, same⟩ := Option.map_eq_some_iff.1 read
    cases same
    exact Nat.lt_of_lt_of_le (step before) (Nat.le_add_right _ 2)
  | case3 => cases read; exact Nat.lt_succ_self _
  | case4 => cases read
  | case5 c tail escape other plain step =>
    obtain ⟨⟨inner, place⟩, before, same⟩ := Option.map_eq_some_iff.1 read
    cases same
    exact Nat.lt_succ_of_lt (step before)

namespace Grammar

open Rule

theorem advances_quotedWord (quote : Char) : Advances (quotedWord quote) := by
  refine Advances.named (Advances.andThen (advances_oneOf _) fun _ => ?_)
  intro text value rest read
  obtain ⟨⟨inner, place⟩, before, same⟩ := Option.map_eq_some_iff.1 read
  cases same
  exact Nat.le_of_lt (length_quotedText_lt before)

theorem advances_strictWord : Advances strictWord :=
  Advances.named (Advances.andThen (advances_run _) fun _ => keeps_succeed _)

theorem advances_word : Advances word :=
  (advances_quotedWord _).orElse ((advances_quotedWord _).orElse advances_strictWord)

theorem advances_character (c : Char) : Advances (character c) := advances_oneOf _

theorem keeps_dayLiteral : Keeps dayLiteral :=
  Keeps.named (Keeps.andThen keeps_here fun _ => Keeps.andThen (keeps_number 4) fun _ =>
    Keeps.andThen (advances_character '-').keeps fun _ => Keeps.andThen (keeps_number 2) fun _ =>
      Keeps.andThen (advances_character '-').keeps fun _ => Keeps.andThen (keeps_number 2) fun _ =>
        keeps_succeed _)

theorem keeps_dayRange_body : Keeps (between <|> upTo <|> since) := by
  have separator := (advances_character ',').keeps
  refine Keeps.orElse (Keeps.named ?_) (Keeps.orElse (Keeps.named ?_) (Keeps.named ?_))
  · exact keeps_dayLiteral.andThen fun _ => separator.andThen fun _ =>
      keeps_dayLiteral.andThen fun _ => keeps_succeed _
  · exact separator.andThen fun _ => keeps_dayLiteral.andThen fun _ => keeps_succeed _
  · exact keeps_dayLiteral.andThen fun _ => separator.andThen fun _ => keeps_succeed _

theorem keeps_dayRange : Keeps dayRange :=
  Keeps.named ((advances_character '(').keeps.andThen fun _ => keeps_dayRange_body.andThen fun _ =>
    (advances_character ')').keeps.andThen fun _ => keeps_endOfWord.andThen fun _ =>
      keeps_succeed _)

theorem keeps_filterValue (comparison : Comparison) : Keeps (filterValue comparison) :=
  Keeps.orElse (keeps_dayRange.andThen fun _ => keeps_succeed _)
    (advances_word.keeps.andThen fun _ => keeps_succeed _)

theorem advances_filter : Advances filter :=
  Advances.named (advances_strictWord.andThen fun _ =>
    Keeps.andThen (Keeps.named ((advances_oneOf _).keeps.andThen fun _ => keeps_succeed _)) fun _ =>
      keeps_blanks.andThen fun _ => (keeps_filterValue _).andThen fun _ => keeps_succeed _)

theorem advances_item : Advances item :=
  advances_filter.orElse (advances_word.andThen fun _ => keeps_succeed _)

end Grammar

/-- The items that a whole text is made of, with blanks between them or not; otherwise the
furthest place at which a rule was refused. -/
def readItems (text : Place) : Except Place (List (Item DayLiteral)) :=
  match _attempt : Grammar.item (Text.skipBlanks text) with
  | ⟨some (found, rest), refused⟩ =>
    match readItems rest with
    | .ok items => .ok (found :: items)
    | .error place => .error (furthest refused place)
  | ⟨none, refused⟩ =>
    if (Text.skipBlanks text).isEmpty then .ok []
    else .error (furthest refused (Text.skipBlanks text))
termination_by text.length
decreasing_by
  exact Nat.lt_of_lt_of_le
    (Grammar.advances_item (Text.skipBlanks text) found rest (by rw [_attempt]))
    (Text.length_skipBlanks_le text)

def position (text : List Char) (place : Place) : Nat :=
  Text.utf8Length text - Text.utf8Length place

/-- The fault of a text that the grammar refuses, where `place` is the furthest refusal. -/
def grammarFault (text : List Char) (place : Place) : Fault :=
  match unclosedQuote text with
  | some quote => .unclosedQuote (position text quote)
  | none =>
    match place with
    | [] => .unexpectedEnd (position text place)
    | c :: _ => .unexpected c (position text place)

def resolveDay (text : List Char) (literal : DayLiteral) : Except Fault Date :=
  match literal.date? with
  | some date => .ok date
  | none => .error (.impossibleDate literal.text (position text literal.place))

def resolveRange (text : List Char) : Range DayLiteral → Except Fault (Range Date)
  | .between first last => do
    let first ← resolveDay text first
    let last ← resolveDay text last
    return .between first last
  | .upTo last => return .upTo (← resolveDay text last)
  | .since first => return .since (← resolveDay text first)

def resolveItem (text : List Char) : Item DayLiteral → Except Fault (Item Date)
  | .term term => .ok (.term term)
  | .filter field (.text comparison value) => .ok (.filter field (.text comparison value))
  | .filter field (.range range) => return .filter field (.range (← resolveRange text range))

def resolveItems (text : List Char) : List (Item DayLiteral) → Except Fault (List (Item Date))
  | [] => .ok []
  | item :: items => do
    let item ← resolveItem text item
    let items ← resolveItems text items
    return item :: items

def Item.term? {day : Type} : Item day → Option String
  | .term text => some text
  | .filter .. => none

def Item.filter? {day : Type} : Item day → Option (String × FilterValue day)
  | .term _ => none
  | .filter field value => some (field, value)

/-- The query that items make; the last value of a field counts. -/
def ofItems (items : List (Item Date)) : Query :=
  ⟨items.filterMap Item.term?, Filters.ofList (items.filterMap Item.filter?)⟩

def parse (text : String) : Except Fault Query :=
  if maxLength < text.utf8ByteSize then
    .error .tooLong
  else
    match readItems text.toList with
    | .ok items => (resolveItems text.toList items).map ofItems
    | .error place => .error (grammarFault text.toList place)

end PeriodicalSearch.Query
