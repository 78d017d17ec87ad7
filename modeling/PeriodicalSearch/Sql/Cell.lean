import PeriodicalSearch.Sql.DayText
import PeriodicalSearch.Uuid

/-!
What the columns of a stored row hold, and what SQLite makes of it: the text of a cell, the day it
names, and the order of cells. Days and moments are kept as text, identifiers as sixteen octets.
-/
namespace PeriodicalSearch.Sql

inductive Cell where
  | null
  | integer (value : Int)
  | text (value : List Char)
  | date (value : Date)
  | moment (value : Timestamp)
  | uuid (value : Uuid)
  deriving DecidableEq

/-- The character of a code that octets spell. Codes that no text has are read as the replacement
character; a code behind the last character stands as one that no pattern has. -/
def spelledCharacter (code : Nat) : Char :=
  if code < 0x80 ∨ 0xD800 ≤ code ∧ code < 0xE000 ∨ code = 0xFFFE ∨ code = 0xFFFF then '\uFFFD'
  else if code < 0x110000 then Char.ofNat code
  else '\uFFFF'

def leadBits (octet : Nat) : Nat :=
  if octet < 0xE0 then octet % 0x20
  else if octet < 0xF0 then octet % 0x10
  else if octet < 0xF8 then octet % 8
  else if octet < 0xFC then octet % 4
  else if octet = 0xFD then 1
  else 0

/-- Octets read as text. One below `0xC0` is a character of its own; any other takes the octets from
`0x80` to `0xBF` that follow it, of whose bits 32 count. -/
def looseText : List Nat → List Char
  | [] => []
  | octet :: octets =>
    if octet < 0xC0 then
      Char.ofNat octet :: looseText octets
    else
      let trailing := octets.takeWhile fun next => 0x80 ≤ next && next < 0xC0
      let code := trailing.foldl (fun code next => (code * 0x40 + next % 0x40) % 0x100000000)
        (leadBits octet)
      spelledCharacter code :: looseText (octets.drop trailing.length)
termination_by octets => octets.length
decreasing_by
  · exact Nat.lt_succ_self _
  · rw [List.length_drop]
    exact Nat.lt_succ_of_le (Nat.sub_le ..)

def integerText (value : Int) : List Char :=
  if value < 0 then '-' :: Text.digits value.natAbs else Text.digits value.natAbs

namespace Cell

/-- The cell as text. A null has none, and the octets of an identifier need not spell any. -/
def text? : Cell → Option (List Char)
  | .null => none
  | .integer value => some (integerText value)
  | .text value => some value
  | .date value => some value.text
  | .moment value => some value.storedText
  | .uuid _ => none

/-- The text of the day that a cell names. An integer is a Julian day number, and no text has a
sixty-first second. -/
def day? : Cell → Option (List Char)
  | .null => none
  | .integer value =>
    if 0 ≤ value ∧ value ≤ 5373484 then (Date.ofJulianDay? value).map Date.text else none
  | .text value => (dayInText? value).map Date.text
  | .date value => (toldDay? value 0).map Date.text
  | .moment value =>
    if value.second < 60 then (toldDay? value.date value.milliseconds).map Date.text else none
  | .uuid value => (dayInText? (looseText value.octets)).map Date.text

def rank : Cell → Nat
  | .null => 0
  | .integer _ => 1
  | .text _ | .date _ | .moment _ => 2
  | .uuid _ => 3

/-- The order of cells: nulls, then integers by value, then texts by their characters, then
identifiers by their octets. -/
def compare (one other : Cell) : Ordering :=
  match one, other with
  | .integer value, .integer value' => Ord.compare value value'
  | .uuid value, .uuid value' => Ord.compare value.bits.toNat value'.bits.toNat
  | one, other =>
    (Ord.compare one.rank other.rank).then
      (Ord.compare (one.text?.getD []) (other.text?.getD []))

end Cell

end PeriodicalSearch.Sql
