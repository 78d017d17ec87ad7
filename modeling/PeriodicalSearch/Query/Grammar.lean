import PeriodicalSearch.Query.Basic
import PeriodicalSearch.Query.Rule

/-!
The grammar of search queries. An item is a filter or a term, and a filter is tried first; the value
of a filter is tried as a range of days before it is read as a word. The days of a range are
literals here, of four, two and two digits, whether or not the calendar has them.
-/
namespace PeriodicalSearch.Query

def isStrict (c : Char) : Bool :=
  !(Text.isBlank c || c == '\'' || c == '"' || c == ':' || c == '=')

structure DayLiteral where
  place : Place
  year : Nat
  month : Nat
  day : Nat

namespace DayLiteral

def text (literal : DayLiteral) : String := String.ofList (literal.place.take 10)

def date? (literal : DayLiteral) : Option Date := Date.ofYmd? literal.year literal.month literal.day

end DayLiteral

inductive Item (day : Type) where
  | term (text : String)
  | filter (field : String) (value : FilterValue day)
  deriving DecidableEq

/-- The text up to the closing quote, and what is behind it. A backslash stands for the character
after it. -/
def quotedText (quote : Char) : List Char → Option (List Char × Place)
  | [] => none
  | '\\' :: c :: rest => (quotedText quote rest).map fun read => (c :: read.1, read.2)
  | c :: rest =>
    if c = quote then some ([], rest)
    else if c = '\\' then none
    else (quotedText quote rest).map fun read => (c :: read.1, read.2)

namespace Grammar

def quotedWord (quote : Char) : Rule String :=
  Rule.named do
    let _ ← Rule.character quote
    fun text => ⟨(quotedText quote text).map fun read => (String.ofList read.1, read.2), none⟩

def strictWord : Rule String :=
  Rule.named do
    let characters ← Rule.run isStrict
    return String.ofList characters

def word : Rule String := quotedWord '\'' <|> quotedWord '"' <|> strictWord

def dayLiteral : Rule DayLiteral :=
  Rule.named do
    let place ← Rule.here
    let year ← Rule.number 4
    let _ ← Rule.character '-'
    let month ← Rule.number 2
    let _ ← Rule.character '-'
    let day ← Rule.number 2
    return ⟨place, year, month, day⟩

def between : Rule (Range DayLiteral) :=
  Rule.named do
    let first ← dayLiteral
    let _ ← Rule.character ','
    let last ← dayLiteral
    return .between first last

def upTo : Rule (Range DayLiteral) :=
  Rule.named do
    let _ ← Rule.character ','
    let last ← dayLiteral
    return .upTo last

def since : Rule (Range DayLiteral) :=
  Rule.named do
    let first ← dayLiteral
    let _ ← Rule.character ','
    return .since first

def dayRange : Rule (Range DayLiteral) :=
  Rule.named do
    let _ ← Rule.character '('
    let range ← between <|> upTo <|> since
    let _ ← Rule.character ')'
    let _ ← Rule.endOfWord
    return range

def field : Rule String := strictWord

def delimiter : Rule Comparison :=
  Rule.named do
    let c ← Rule.oneOf fun c => c == ':' || c == '='
    return if c = ':' then .contains else .equals

/-- The value of a filter. The delimiter makes no difference for a range. -/
def filterValue (comparison : Comparison) : Rule (FilterValue DayLiteral) :=
  (do let range ← dayRange; return .range range) <|>
    (do let value ← word; return .text comparison value)

def filter : Rule (Item DayLiteral) :=
  Rule.named do
    let name ← field
    let comparison ← delimiter
    let _ ← Rule.blanks
    let value ← filterValue comparison
    return .filter name value

def item : Rule (Item DayLiteral) := filter <|> (do let text ← word; return .term text)

end Grammar

end PeriodicalSearch.Query
