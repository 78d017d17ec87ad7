import PeriodicalSearch.Calendar.Timestamp
import PeriodicalSearch.Text.Blank

/-!
Days and moments as they come in text. Blanks may stand before each number and separator, numbers
need no leading zeros, and a year of more than four digits carries a sign.
-/
namespace PeriodicalSearch.Calendar

def readNumber (width : Nat) (text : List Char) : Option (Nat × List Char) :=
  let shown := (text.take width).takeWhile Char.isDigit
  if shown.isEmpty then none
  else some (Text.decimalValue shown, text.drop shown.length)

def readPart (width : Nat) (text : List Char) : Option (Nat × List Char) :=
  readNumber width (Text.skipBlanks text)

def readSeparator (separator : Char) (text : List Char) : Option (Unit × List Char) :=
  match Text.skipBlanks text with
  | [] => none
  | c :: rest => if c = separator then some ((), rest) else none

def readYear (text : List Char) : Option (Int × List Char) :=
  match Text.skipBlanks text with
  | '-' :: rest => (readNumber rest.length rest).map fun read => (-Int.ofNat read.1, read.2)
  | '+' :: rest => (readNumber rest.length rest).map fun read => (Int.ofNat read.1, read.2)
  | rest => (readNumber 4 rest).map fun read => (Int.ofNat read.1, read.2)

def readDay (text : List Char) : Option (Date × List Char) := do
  let (year, text) ← readYear text
  let (_, text) ← readSeparator '-' text
  let (month, text) ← readPart 2 text
  let (_, text) ← readSeparator '-' text
  let (day, text) ← readPart 2 text
  let date ← Date.ofYmd? year month day
  return (date, text)

/-- The nanoseconds that a decimal fraction shows; digits after the ninth do not count. -/
def readFraction (text : List Char) : Option (Nat × List Char) :=
  match text with
  | '.' :: rest =>
    let shown := rest.takeWhile Char.isDigit
    (readNumber 9 shown).map fun read =>
      (read.1 * Nat.pow 10 (9 - min 9 shown.length), rest.drop shown.length)
  | text => some (0, text)

def readTime (text : List Char) : Option ((Nat × Nat × Nat) × List Char) := do
  let (hour, text) ← readPart 2 text
  let (_, text) ← readSeparator ':' text
  let (minute, text) ← readPart 2 text
  let (_, text) ← readSeparator ':' text
  let (second, text) ← readPart 2 text
  let (nanos, text) ← readFraction text
  if hour < 24 ∧ minute < 60 then some ((hour * 60 + minute, second, nanos), text) else none

def readTwoDigits : List Char → Option (Nat × List Char)
  | tens :: ones :: rest => do
    let tens ← Text.digitValue? tens
    let ones ← Text.digitValue? ones
    return (tens * 10 + ones, rest)
  | _ => none

def readOffset (text : List Char) : Option (Int × List Char) := do
  let (hours, text) ← readTwoDigits text
  let (minutes, text) ← readTwoDigits (text.dropWhile fun c => c = ':' || Text.isBlank c)
  if hours < 24 ∧ minutes < 60 then some (Int.ofNat (hours * 60 + minutes), text) else none

def readZone (text : List Char) : Option (Int × List Char) :=
  if (text.take 3).map Char.toUpper = ['U', 'T', 'C'] then some (0, text.drop 3)
  else
    match text with
    | 'Z' :: rest | 'z' :: rest => some (0, rest)
    | '+' :: rest => readOffset rest
    | '-' :: rest | '\u2212' :: rest => (readOffset rest).map fun read => (-read.1, read.2)
    | _ => none

def date? (text : List Char) : Option Date :=
  match readDay text with
  | some (date, []) => some date
  | _ => none

/-- The moment that the whole text names: a day, `T` or a space, a time of day and a zone. -/
def timestamp? (text : List Char) : Option Timestamp := do
  let (date, text) ← readDay text
  let text ← match text with
    | 'T' :: rest | 't' :: rest | ' ' :: rest => some rest
    | _ => none
  let ((minute, second, nanos), text) ← readTime text
  let (offset, text) ← readZone (Text.skipBlanks text)
  if Text.skipBlanks text = [] then Timestamp.ofLocal? date minute second nanos offset else none

end PeriodicalSearch.Calendar
