/-!
Decimal numbers in text: reading with bounds, where the first fault in the text decides the
message, and fixed-width writing.
-/
namespace PeriodicalSearch.Text

inductive NumberFault
  | empty
  | invalidDigit
  | tooLarge
  | tooSmall
  deriving DecidableEq, Repr

def NumberFault.message : NumberFault → String
  | .empty => "cannot parse integer from empty string"
  | .invalidDigit => "invalid digit found in string"
  | .tooLarge => "number too large to fit in target type"
  | .tooSmall => "number too small to fit in target type"

def digitValue? (c : Char) : Option Nat :=
  if c.isDigit then some (c.toNat - '0'.toNat) else none

def decimalValue (digits : List Char) : Nat :=
  digits.foldl (fun value c => value * 10 + (c.toNat - '0'.toNat)) 0

/-- The number that `digits` continue when `value` has been read, as long as it stays within
`bound`; beyond it the fault is `excess`. -/
def continueNumber (bound : Nat) (excess : NumberFault) :
    (value : Nat) → (digits : List Char) → Except NumberFault Nat
  | value, [] => .ok value
  | value, c :: rest =>
    match digitValue? c with
    | none => .error .invalidDigit
    | some digit =>
      if value * 10 + digit ≤ bound then
        continueNumber bound excess (value * 10 + digit) rest
      else
        .error excess

def readDigits (bound : Nat) (excess : NumberFault) (digits : List Char) :
    Except NumberFault Nat :=
  match digits with
  | [] => .error .invalidDigit
  | digits => continueNumber bound excess 0 digits

def readUnsigned (bound : Nat) (text : List Char) : Except NumberFault Nat :=
  match text with
  | [] => .error .empty
  | '+' :: digits => readDigits bound .tooLarge digits
  | digits => readDigits bound .tooLarge digits

/-- A number from `-(bound + 1)` to `bound`; a sign may stand before it. -/
def readSigned (bound : Nat) (text : List Char) : Except NumberFault Int :=
  match text with
  | [] => .error .empty
  | '+' :: digits => (readDigits bound .tooLarge digits).map Int.ofNat
  | '-' :: digits => (readDigits (bound + 1) .tooSmall digits).map (fun value => -Int.ofNat value)
  | digits => (readDigits bound .tooLarge digits).map Int.ofNat

def maxInt32 : Nat := 0x7FFFFFFF

def maxInt64 : Nat := 0x7FFFFFFFFFFFFFFF

def maxUInt64 : Nat := 0xFFFFFFFFFFFFFFFF

def digits (value : Nat) : List Char := Nat.toDigits 10 value

def paddedDigits (width value : Nat) : List Char :=
  List.replicate (width - (digits value).length) '0' ++ digits value

end PeriodicalSearch.Text
