import PeriodicalSearch.Text.Hexadecimal

/-!
Universally unique identifiers: 128 bits, written as 32 hexadecimal digits in five groups.
-/
namespace PeriodicalSearch

structure Uuid where
  bits : BitVec 128
  deriving DecidableEq

namespace Uuid

def ofDigits? (digits : List Char) : Option Uuid :=
  if digits.length = 32 then
    (Text.hexNumber? digits).map fun value => ⟨BitVec.ofNat 128 value⟩
  else
    none

def ofGroups? (text : List Char) : Option Uuid :=
  if text.length = 36 ∧ text[8]? = some '-' ∧ text[13]? = some '-' ∧ text[18]? = some '-' ∧
      text[23]? = some '-' then
    ofDigits? (text.take 8 ++ (text.drop 9).take 4 ++ (text.drop 14).take 4 ++
      (text.drop 19).take 4 ++ text.drop 24)
  else
    none

/-- The identifier that a text names: digits alone, groups, groups in braces, or groups behind
`urn:uuid:`. -/
def ofText? (text : List Char) : Option Uuid :=
  match text.length with
  | 32 => ofDigits? text
  | 36 => ofGroups? text
  | 38 =>
    if text.head? = some '{' ∧ text.getLast? = some '}' then ofGroups? (text.drop 1).dropLast
    else none
  | 45 => if text.take 9 = "urn:uuid:".toList then ofGroups? (text.drop 9) else none
  | _ => none

def text (id : Uuid) : List Char :=
  let shown := Text.hexText 32 id.bits.toNat
  shown.take 8 ++ '-' :: ((shown.drop 8).take 4 ++ '-' :: ((shown.drop 12).take 4 ++
    '-' :: ((shown.drop 16).take 4 ++ '-' :: shown.drop 20)))

def toString (id : Uuid) : String := String.ofList id.text

def octets (id : Uuid) : List Nat :=
  (List.range 16).map fun index => id.bits.toNat / Nat.pow 256 (15 - index) % 256

end Uuid

end PeriodicalSearch
