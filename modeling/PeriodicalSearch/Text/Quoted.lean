import PeriodicalSearch.Text.Unprintable

/-!
Texts as messages quote them: in double quotes, with quotes, backslashes and what cannot be seen
written as escapes.
-/
namespace PeriodicalSearch.Text

/-- Controls, separators, unassigned characters and marks that join the character before them. -/
def isUnprintable (c : Char) : Bool :=
  let code := c.toNat
  if code < 0x7F then code < 0x20
  else unprintableRanges.any (fun range => range.1 ≤ code && code ≤ range.2)

def escaped (c : Char) : List Char :=
  match c with
  | '"' => ['\\', '"']
  | '\\' => ['\\', '\\']
  | '\n' => ['\\', 'n']
  | '\r' => ['\\', 'r']
  | '\t' => ['\\', 't']
  | '\x00' => ['\\', '0']
  | c =>
    if isUnprintable c then '\\' :: 'u' :: '{' :: (Nat.toDigits 16 c.toNat ++ ['}'])
    else [c]

def quoted (text : String) : String :=
  String.ofList ('"' :: (text.toList.flatMap escaped ++ ['"']))

end PeriodicalSearch.Text
