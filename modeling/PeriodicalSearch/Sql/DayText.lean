import PeriodicalSearch.Calendar.Timestamp
import PeriodicalSearch.Sql.Like
import PeriodicalSearch.Sql.Numeral

/-!
The days that SQLite tells. It counts milliseconds from noon of the first Julian day, number 0, and
rounds to them, so that the last half of a millisecond may belong to the next day.
-/
namespace PeriodicalSearch

namespace Calendar

def millisecondsPerDay : Nat := 86400000

end Calendar

/-- The milliseconds since the day began, rounded; they may be those of a whole day. -/
def Timestamp.milliseconds (moment : Timestamp) : Nat :=
  moment.minute * 60000 + (moment.second * Calendar.nanosPerSecond + moment.nanos + 500000) / 1000000

namespace Sql

/-- The database knows the time of the day: it is not before noon of the 24th of November of -4713,
nor behind the year 9999. -/
def IsKnownTime (date : Date) (milliseconds : Nat) : Prop :=
  date.year ≤ 9999 ∧ (-4713 < date.year ∨ date.year = -4713 ∧ (11 < date.month ∨
    date.month = 11 ∧ (24 < date.day ∨ date.day = 24 ∧ 43200000 ≤ milliseconds)))

instance (date : Date) (milliseconds : Nat) : Decidable (IsKnownTime date milliseconds) :=
  inferInstanceAs (Decidable (_ ∧ _))

/-- The day that is told for a time of a day. A time that was rounded up to midnight counts for the
next day, but only from the 29th of a month on, where the database looks whether the month has the
day. -/
def toldDay? (date : Date) (milliseconds : Nat) : Option Date :=
  if IsKnownTime date milliseconds then
    if milliseconds < Calendar.millisecondsPerDay ∨ date.day ≤ 28 then some date
    else date.next?.filter fun next => next.year ≤ 9999
  else none

def dayAt? (milliseconds : Int) : Option Date :=
  if 43200000 ≤ milliseconds ∧ milliseconds ≤ 464269103999999 then
    Date.ofJulianDay? (milliseconds.fdiv Calendar.millisecondsPerDay)
  else none

def readBounded (width low high : Nat) (text : List Char) : Option (Nat × List Char) :=
  let shown := text.take width
  let value := Text.decimalValue shown
  if shown.length = width ∧ shown.all Char.isDigit ∧ low ≤ value ∧ value ≤ high then
    some (value, text.drop width)
  else none

def readSeparator (separator : Char) : List Char → Option (List Char)
  | [] => none
  | c :: rest => if c = separator then some rest else none

def readSeconds : List Char → Option (Nat × List Char)
  | ':' :: text => do
    let (second, text) ← readBounded 2 0 59 text
    let fraction := match text with
      | '.' :: behind => behind.takeWhile Char.isDigit
      | _ => []
    if fraction.isEmpty then return (second * 1000, text)
    else
      let number : Numeral := ⟨Text.decimalValue fraction, -fraction.length⟩
      return (second * 1000 + (number.timesRounded 1000).natAbs, text.drop (fraction.length + 1))
  | text => some (0, text)

def readOffset (text : List Char) : Option (Nat × List Char) := do
  let (hours, text) ← readBounded 2 0 14 text
  let text ← readSeparator ':' text
  let (minutes, text) ← readBounded 2 0 59 text
  return (hours * 60 + minutes, text)

def readZone (text : List Char) : Option Int := do
  let (offset, text) ← match text.dropWhile isSpace with
    | 'Z' :: rest | 'z' :: rest => some (0, rest)
    | '+' :: rest => (readOffset rest).map fun read => (Int.ofNat read.1, read.2)
    | '-' :: rest => (readOffset rest).map fun read => (-Int.ofNat read.1, read.2)
    | rest => some (0, rest)
  if text.all isSpace then some offset else none

def readClock (text : List Char) : Option (Nat × Int) := do
  let (hour, text) ← readBounded 2 0 24 text
  let text ← readSeparator ':' text
  let (minute, text) ← readBounded 2 0 59 text
  let (milliseconds, text) ← readSeconds text
  let offset ← readZone text
  return ((hour * 60 + minute) * 60000 + milliseconds, offset)

/-- Year, month and day, where a month may have 31 days whatever its name. -/
def readDay (text : List Char) : Option ((Int × Nat × Nat) × List Char) := do
  let (sign, text) : Int × List Char := match text with
    | '-' :: rest => (-1, rest)
    | rest => (1, rest)
  let (year, text) ← readBounded 4 0 9999 text
  let text ← readSeparator '-' text
  let (month, text) ← readBounded 2 1 12 text
  let text ← readSeparator '-' text
  let (day, text) ← readBounded 2 1 31 text
  return ((sign * year, month, day), text)

def universalDay? (year : Int) (month day milliseconds : Nat) (offset : Int) : Option Date :=
  dayAt? (Date.julianDay year month day * Calendar.millisecondsPerDay + milliseconds -
    offset * 60000)

/-- The day in a text: a date with or without a time, a time, which is one of the first day of the
year 2000, or a number of Julian days. The words for the time of the query, such as `now`, are not
read. -/
def dayInText? (text : List Char) : Option Date :=
  let text := visible text
  match readDay text with
  | some ((year, month, day), text) => do
    let text := text.dropWhile fun c => isSpace c || c = 'T'
    let (milliseconds, offset) ← if text.isEmpty then some (0, 0) else readClock text
    let told ← universalDay? year month day milliseconds offset
    if offset = 0 ∧ day ≤ 28 then Date.ofYmd? year month day else some told
  | none =>
    match readClock text with
    | some (milliseconds, offset) => universalDay? 2000 1 1 milliseconds offset
    | none => do
      let number ← Numeral.ofText? text
      if number.mantissa < 0 then none
      else dayAt? (number.timesRounded Calendar.millisecondsPerDay + 43200000)

end Sql

end PeriodicalSearch
