import PeriodicalSearch.Text.UpperCase.Table

/-!
Upper-casing by the Unicode rules that need no context: each character is replaced by its capital,
which for a few letters is several characters.
-/
namespace PeriodicalSearch.Text

def capital (c : Char) : List Char :=
  if c.toNat < 0x80 then
    [c.toUpper]
  else
    match caseExpansions.lookup c.toNat with
    | some codes => codes.map Char.ofNat
    | none =>
      match caseRuns.findSome? (fun run => run.capital? c.toNat) with
      | some code => [Char.ofNat code]
      | none => [c]

def capitals (text : List Char) : List Char := text.flatMap capital

def upperCase (text : String) : String := String.ofList (capitals text.toList)

theorem capitals_append (left right : List Char) :
    capitals (left ++ right) = capitals left ++ capitals right :=
  List.flatMap_append

end PeriodicalSearch.Text
