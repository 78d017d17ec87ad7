import PeriodicalSearch.Json.Basic
import PeriodicalSearch.Text.Hexadecimal

/-!
JSON text without blanks. Strings escape quotes, backslashes and control characters only.
-/
namespace PeriodicalSearch.Json

def escapeCharacter (c : Char) : List Char :=
  match c with
  | '"' => ['\\', '"']
  | '\\' => ['\\', '\\']
  | '\n' => ['\\', 'n']
  | '\r' => ['\\', 'r']
  | '\t' => ['\\', 't']
  | c => if c.toNat < 0x20 then '\\' :: 'u' :: Text.hexText 4 c.toNat else [c]

def printString (text : String) : String :=
  String.ofList ('"' :: (text.toList.flatMap escapeCharacter ++ ['"']))

mutual

/-- The text of a value. A string without a text is written as a replacement character. -/
def print : Json → String
  | .null => "null"
  | .bool value => if value then "true" else "false"
  | .integer value => toString value
  | .decimal literal => literal
  | .string text => printString (text.getD "\uFFFD")
  | .array items => "[" ++ ",".intercalate (printItems items) ++ "]"
  | .object members => "\x7b" ++ ",".intercalate (printMembers members) ++ "\x7d"

def printItems : List Json → List String
  | [] => []
  | item :: items => print item :: printItems items

def printMembers : List (Option String × Json) → List String
  | [] => []
  | (name, value) :: members =>
    (printString (name.getD "\uFFFD") ++ ":" ++ print value) :: printMembers members

end

end PeriodicalSearch.Json
