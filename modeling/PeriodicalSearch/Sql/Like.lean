/-!
Patterns of `LIKE`, with the backslash as the escape character. Letters of the ASCII alphabet match
in either case; all other characters match themselves only.
-/
namespace PeriodicalSearch.Sql

inductive PatternPart where
  /-- `%`: any characters, or none. -/
  | anyRun
  /-- `_`: any one character. -/
  | anyOne
  | literal (c : Char)
  deriving DecidableEq

/-- The parts of a pattern; a pattern that ends in the escape character has none. -/
def patternParts? : List Char → Option (List PatternPart)
  | [] => some []
  | '\\' :: c :: rest => (patternParts? rest).map (.literal c :: ·)
  | c :: rest =>
    if c = '\\' then none
    else if c = '%' then (patternParts? rest).map (.anyRun :: ·)
    else if c = '_' then (patternParts? rest).map (.anyOne :: ·)
    else (patternParts? rest).map (.literal c :: ·)

def fits : List PatternPart → List Char → Bool
  | [], text => text.isEmpty
  | .literal c :: parts, c' :: text => c.toUpper == c'.toUpper && fits parts text
  | .literal _ :: _, [] => false
  | .anyOne :: parts, _ :: text => fits parts text
  | .anyOne :: _, [] => false
  | .anyRun :: parts, [] => fits parts []
  | .anyRun :: parts, c :: text => fits parts (c :: text) || fits (.anyRun :: parts) text
termination_by parts text => parts.length + text.length

def visible (text : List Char) : List Char := text.takeWhile (· != '\x00')

def readCharacter (c : Char) : Char := if c = '\uFFFE' ∨ c = '\uFFFF' then '\uFFFD' else c

def readText (text : List Char) : List Char := (visible text).map readCharacter

def like (pattern text : List Char) : Bool :=
  match patternParts? pattern with
  | some parts => fits parts text
  | none => false

/-- The octets of the longest pattern that `LIKE` takes. -/
def maxPatternSize : Nat := 50000

end PeriodicalSearch.Sql
