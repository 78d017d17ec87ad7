import PeriodicalSearch.Calendar.Date

/-!
Moments in universal time, to the nanosecond, and their text. A minute may have a sixty-first
second.
-/
namespace PeriodicalSearch

namespace Calendar

def minutesPerDay : Nat := 1440

def nanosPerSecond : Nat := 1000000000

def IsTime (minute second nanos : Nat) : Prop :=
  minute < minutesPerDay ∧ second ≤ 60 ∧ nanos < nanosPerSecond

instance (minute second nanos : Nat) : Decidable (IsTime minute second nanos) :=
  inferInstanceAs (Decidable (_ ∧ _))

end Calendar

structure Timestamp where
  date : Date
  minute : Nat
  second : Nat
  nanos : Nat
  isTime : Calendar.IsTime minute second nanos
  deriving DecidableEq

namespace Timestamp

def ofParts? (date : Date) (minute second nanos : Nat) : Option Timestamp :=
  if isTime : Calendar.IsTime minute second nanos then some ⟨date, minute, second, nanos, isTime⟩
  else none

def ofLocal? (date : Date) (minute second nanos : Nat) (offset : Int) : Option Timestamp :=
  let shifted := (minute : Int) - offset
  if shifted < 0 then do
    let date ← date.previous?
    ofParts? date (shifted + Calendar.minutesPerDay).natAbs second nanos
  else if shifted < Calendar.minutesPerDay then
    ofParts? date shifted.natAbs second nanos
  else do
    let date ← date.next?
    ofParts? date (shifted - Calendar.minutesPerDay).natAbs second nanos

/-- The fraction of a second in the fewest of no, three, six or nine digits that are exact. -/
def fractionText (nanos : Nat) : List Char :=
  if nanos = 0 then []
  else if nanos % 1000000 = 0 then '.' :: Text.paddedDigits 3 (nanos / 1000000)
  else if nanos % 1000 = 0 then '.' :: Text.paddedDigits 6 (nanos / 1000)
  else '.' :: Text.paddedDigits 9 nanos

def clockText (moment : Timestamp) : List Char :=
  moment.date.text ++ 'T' :: (Text.paddedDigits 2 (moment.minute / 60) ++
    ':' :: (Text.paddedDigits 2 (moment.minute % 60) ++
      ':' :: (Text.paddedDigits 2 moment.second ++ fractionText moment.nanos)))

def text (moment : Timestamp) : List Char := moment.clockText ++ ['Z']

def storedText (moment : Timestamp) : List Char := moment.clockText ++ "+00:00".toList

end Timestamp

end PeriodicalSearch
