/-!
Hexadecimal numbers: read in either case, written in lower case.
-/
namespace PeriodicalSearch.Text

def hexValue? (c : Char) : Option Nat :=
  if '0' ≤ c ∧ c ≤ '9' then some (c.toNat - '0'.toNat)
  else if 'a' ≤ c ∧ c ≤ 'f' then some (c.toNat - 'a'.toNat + 10)
  else if 'A' ≤ c ∧ c ≤ 'F' then some (c.toNat - 'A'.toNat + 10)
  else none

def hexNumber? (digits : List Char) : Option Nat :=
  digits.foldlM (fun value c => (hexValue? c).map (value * 16 + ·)) 0

def hexText (width value : Nat) : List Char :=
  let shown := Nat.toDigits 16 value
  List.replicate (width - shown.length) '0' ++ shown

end PeriodicalSearch.Text
