import PeriodicalSearch.Text.Decimal

/-!
Days of the proleptic Gregorian calendar, in which year 0 exists and is a leap year, and their ISO
text. A `Date` is always a day that exists.
-/
namespace PeriodicalSearch

namespace Calendar

def minYear : Int := -262143

def maxYear : Int := 262142

def isLeapYear (year : Int) : Bool := year % 4 == 0 && (year % 100 != 0 || year % 400 == 0)

def daysInMonth (year : Int) (month : Nat) : Nat :=
  match month with
  | 2 => if isLeapYear year then 29 else 28
  | 4 | 6 | 9 | 11 => 30
  | _ => 31

def IsDay (year : Int) (month day : Nat) : Prop :=
  minYear ≤ year ∧ year ≤ maxYear ∧ 1 ≤ month ∧ month ≤ 12 ∧ 1 ≤ day ∧ day ≤ daysInMonth year month

instance (year : Int) (month day : Nat) : Decidable (IsDay year month day) :=
  inferInstanceAs (Decidable (_ ∧ _))

end Calendar

structure Date where
  year : Int
  month : Nat
  day : Nat
  isDay : Calendar.IsDay year month day
  deriving DecidableEq

namespace Date

def ofYmd? (year : Int) (month day : Nat) : Option Date :=
  if isDay : Calendar.IsDay year month day then some ⟨year, month, day, isDay⟩ else none

/-- Four digits for the years 0 to 9999; any other year has a sign and at least four digits. -/
def yearText (year : Int) : List Char :=
  if 0 ≤ year ∧ year ≤ 9999 then Text.paddedDigits 4 year.natAbs
  else (if year < 0 then '-' else '+') :: Text.paddedDigits 4 year.natAbs

def text (date : Date) : List Char :=
  yearText date.year ++
    '-' :: (Text.paddedDigits 2 date.month ++ '-' :: Text.paddedDigits 2 date.day)

def toString (date : Date) : String := String.ofList date.text

/-- The day that lies `days` after the first of March of year 0. A year is counted from March, so
that a leap day is its last; 400 years have 146097 days. -/
def ofMarchDays? (days : Int) : Option Date :=
  let era := days.fdiv 146097
  let dayOfEra := (days - era * 146097).natAbs
  let yearOfEra := (dayOfEra - dayOfEra / 1460 + dayOfEra / 36524 - dayOfEra / 146096) / 365
  let dayOfYear := dayOfEra - (365 * yearOfEra + yearOfEra / 4 - yearOfEra / 100)
  let month := (5 * dayOfYear + 2) / 153
  let day := dayOfYear - (153 * month + 2) / 5 + 1
  let year := era * 400 + yearOfEra
  if month < 10 then ofYmd? year (month + 3) day else ofYmd? (year + 1) (month - 9) day

/-- The Julian day number of a day, whose month may be shorter. -/
def julianDay (year : Int) (month day : Nat) : Int :=
  let marchYear := if month < 3 then year - 1 else year
  let marchMonth := (month + 9) % 12
  1721120 + (365 * marchYear + marchYear.fdiv 4 - marchYear.fdiv 100 + marchYear.fdiv 400) +
    ((153 * marchMonth + 2) / 5 + day - 1 : Nat)

def ofJulianDay? (number : Int) : Option Date := ofMarchDays? (number - 1721120)

def next? (date : Date) : Option Date :=
  if date.day < Calendar.daysInMonth date.year date.month then
    ofYmd? date.year date.month (date.day + 1)
  else if date.month < 12 then
    ofYmd? date.year (date.month + 1) 1
  else
    ofYmd? (date.year + 1) 1 1

def previous? (date : Date) : Option Date :=
  if 1 < date.day then
    ofYmd? date.year date.month (date.day - 1)
  else if 1 < date.month then
    ofYmd? date.year (date.month - 1) (Calendar.daysInMonth date.year (date.month - 1))
  else
    ofYmd? (date.year - 1) 12 31

theorem ofYmd?_self (date : Date) : ofYmd? date.year date.month date.day = some date :=
  dif_pos date.isDay

end Date

end PeriodicalSearch
