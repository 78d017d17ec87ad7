import PeriodicalSearch.Query.Grammar

/-!
Writing queries in the grammar they are read in: terms first, then filters by field. Words are
quoted only where they would not be read back as they are.
-/
namespace PeriodicalSearch.Query

def quotedCharacter (c : Char) : List Char := if c = '"' ∨ c = '\\' then ['\\', c] else [c]

def quotedForm (word : List Char) : List Char := '"' :: (word.flatMap quotedCharacter ++ ['"'])

def isBare (word : List Char) : Bool := !word.isEmpty && word.all isStrict

def termText (term : String) : List Char :=
  if isBare term.toList then term.toList else quotedForm term.toList

/-- The text of a filter; one that begins with a parenthesis is quoted, as it could be read as a
range. -/
def valueText (value : String) : List Char :=
  if isBare value.toList && value.toList.head? != some '(' then value.toList
  else quotedForm value.toList

def rangeText : Range Date → List Char
  | .between first last => '(' :: (first.text ++ ',' :: (last.text ++ [')']))
  | .upTo last => '(' :: ',' :: (last.text ++ [')'])
  | .since first => '(' :: (first.text ++ [',', ')'])

def filterText (field : String) : FilterValue Date → List Char
  | .text comparison value => field.toList ++ comparison.delimiter :: valueText value
  | .range range => field.toList ++ ':' :: rangeText range

def itemTexts (query : Query) : List (List Char) :=
  query.terms.map termText ++ query.filters.entries.map fun entry => filterText entry.1 entry.2

def text (query : Query) : String := String.ofList (List.intercalate [' '] query.itemTexts)

end PeriodicalSearch.Query
