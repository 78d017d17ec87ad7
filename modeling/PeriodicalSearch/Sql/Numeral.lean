import PeriodicalSearch.Text.Decimal

/-!
The numbers that SQLite finds in texts. They are exact here, where the database rounds what does not
fit into a floating-point number.
-/
namespace PeriodicalSearch.Sql

def isSpace (c : Char) : Bool := c.toNat == 0x20 || (0x09 ≤ c.toNat && c.toNat ≤ 0x0D)

/-- `mantissa` times ten to the power of `exponent`. -/
structure Numeral where
  mantissa : Int
  exponent : Int
  deriving DecidableEq

namespace Numeral

def ofInt (value : Int) : Numeral := ⟨value, 0⟩

def readSign : List Char → Int × List Char
  | '-' :: rest => (-1, rest)
  | '+' :: rest => (1, rest)
  | rest => (1, rest)

/-- An exponent, if there is one. The database does not count beyond ten thousand. -/
def readExponent : List Char → Option (Int × List Char)
  | 'e' :: rest | 'E' :: rest =>
    let (sign, rest) := readSign rest
    let shown := rest.takeWhile Char.isDigit
    if shown.isEmpty then none
    else some (sign * (min (Text.decimalValue shown) 10000 : Nat), rest.drop shown.length)
  | rest => some (0, rest)

def ofText? (text : List Char) : Option Numeral := do
  let (sign, text) := readSign (text.dropWhile isSpace)
  let whole := text.takeWhile Char.isDigit
  let text := text.drop whole.length
  let (fraction, text) := match text with
    | '.' :: rest => (rest.takeWhile Char.isDigit, rest.dropWhile Char.isDigit)
    | rest => ([], rest)
  let (power, text) ← readExponent text
  if (whole ++ fraction).isEmpty || !text.all isSpace then none
  else some ⟨sign * Text.decimalValue (whole ++ fraction), power - fraction.length⟩

/-- The mantissa where the exponent is `low`, which is no higher than the exponent. -/
def mantissaAt (low : Int) (number : Numeral) : Int :=
  number.mantissa * Nat.pow 10 (number.exponent - low).natAbs

def compare (one other : Numeral) : Ordering :=
  let low := min one.exponent other.exponent
  Ord.compare (one.mantissaAt low) (other.mantissaAt low)

/-- The number times a factor, rounded to an integer; halves are rounded up. -/
def timesRounded (factor : Nat) (number : Numeral) : Int :=
  let unit := Nat.pow 10 (min number.exponent 0).natAbs
  (2 * factor * number.mantissaAt (min number.exponent 0) + unit).fdiv (2 * unit)

end Numeral

end PeriodicalSearch.Sql
