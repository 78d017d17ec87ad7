import PeriodicalSearch.Json.Basic
import PeriodicalSearch.Text.Decimal
import PeriodicalSearch.Text.Hexadecimal

/-!
Reading JSON text by the grammar: no leading zeros, no bare control characters in strings, blanks
only where the grammar has them, and nothing behind the value.
-/
namespace PeriodicalSearch.Json

def skipSpace (text : List Char) : List Char :=
  text.dropWhile fun c => c = ' ' || c = '\n' || c = '\r' || c = '\t'

def escapeCode? : Char → Option Nat
  | '"' => some '"'.toNat
  | '\\' => some '\\'.toNat
  | '/' => some '/'.toNat
  | 'b' => some 0x08
  | 'f' => some 0x0C
  | 'n' => some 0x0A
  | 'r' => some 0x0D
  | 't' => some 0x09
  | _ => none

def readCodes : List Char → Option (List Nat × List Char)
  | [] => none
  | '"' :: rest => some ([], rest)
  | '\\' :: 'u' :: a :: b :: c :: d :: rest => do
    let code ← Text.hexNumber? [a, b, c, d]
    let (codes, rest) ← readCodes rest
    return (code :: codes, rest)
  | '\\' :: c :: rest => do
    let code ← escapeCode? c
    let (codes, rest) ← readCodes rest
    return (code :: codes, rest)
  | c :: rest =>
    if c.toNat < 0x20 then none
    else do
      let (codes, rest) ← readCodes rest
      return (c.toNat :: codes, rest)

def isHighSurrogate (code : Nat) : Bool := 0xD800 ≤ code && code < 0xDC00

def isLowSurrogate (code : Nat) : Bool := 0xDC00 ≤ code && code < 0xE000

def pairedCharacter (high low : Nat) : Char :=
  Char.ofNat (0x10000 + (high - 0xD800) * 0x400 + (low - 0xDC00))

def joinSurrogates : List Nat → Option (List Char)
  | [] => some []
  | high :: low :: rest =>
    if isHighSurrogate high && isLowSurrogate low then
      (joinSurrogates rest).map (pairedCharacter high low :: ·)
    else if isHighSurrogate high || isLowSurrogate high then
      none
    else
      (joinSurrogates (low :: rest)).map (Char.ofNat high :: ·)
  | [code] =>
    if isHighSurrogate code || isLowSurrogate code then none else some [Char.ofNat code]

def readString (text : List Char) : Option (Option String × List Char) :=
  (readCodes text).map fun read => ((joinSurrogates read.1).map String.ofList, read.2)

def readIntegerPart (text : List Char) : Option (List Char × List Char) :=
  match text with
  | '0' :: rest => some (['0'], rest)
  | text =>
    let shown := text.takeWhile Char.isDigit
    if shown.isEmpty then none else some (shown, text.drop shown.length)

def readFractionPart (text : List Char) : Option (List Char × List Char) :=
  match text with
  | '.' :: rest =>
    let shown := rest.takeWhile Char.isDigit
    if shown.isEmpty then none else some ('.' :: shown, rest.drop shown.length)
  | text => some ([], text)

def readExponentPart (text : List Char) : Option (List Char × List Char) :=
  match text with
  | c :: rest =>
    if c = 'e' || c = 'E' then
      let sign := (rest.take 1).filter fun c => c = '+' || c = '-'
      let shown := (rest.drop sign.length).takeWhile Char.isDigit
      if shown.isEmpty then none
      else some (c :: (sign ++ shown), rest.drop (sign.length + shown.length))
    else
      some ([], text)
  | [] => some ([], [])

def readNumber (text : List Char) : Option (Json × List Char) := do
  let sign := (text.take 1).filter (· = '-')
  let (whole, rest) ← readIntegerPart (text.drop sign.length)
  let (fraction, rest) ← readFractionPart rest
  let (exponent, rest) ← readExponentPart rest
  let value := Text.decimalValue whole
  if fraction.isEmpty && exponent.isEmpty && !(value == 0 && !sign.isEmpty) then
    return (.integer (if sign.isEmpty then Int.ofNat value else -Int.ofNat value), rest)
  else
    return (.decimal (String.ofList (sign ++ whole ++ fraction ++ exponent)), rest)

def skipWord (word : String) (text : List Char) : Option (List Char) :=
  if word.toList.isPrefixOf text then some (text.drop word.length) else none

mutual

/-- A value, with blanks allowed before it. `fuel` exceeds twice the length of the text. -/
def readValue (fuel : Nat) (text : List Char) : Option (Json × List Char) :=
  match fuel with
  | 0 => none
  | fuel + 1 =>
    match skipSpace text with
    | '"' :: rest => (readString rest).map fun read => (.string read.1, read.2)
    | '[' :: rest =>
      match skipSpace rest with
      | ']' :: rest => some (.array [], rest)
      | rest => (readItems fuel rest).map fun read => (.array read.1, read.2)
    | '{' :: rest =>
      match skipSpace rest with
      | '}' :: rest => some (.object [], rest)
      | rest => (readMembers fuel rest).map fun read => (.object read.1, read.2)
    | 'n' :: rest => (skipWord "ull" rest).map fun rest => (.null, rest)
    | 't' :: rest => (skipWord "rue" rest).map fun rest => (.bool true, rest)
    | 'f' :: rest => (skipWord "alse" rest).map fun rest => (.bool false, rest)
    | rest => readNumber rest

def readItems (fuel : Nat) (text : List Char) : Option (List Json × List Char) :=
  match fuel with
  | 0 => none
  | fuel + 1 => do
    let (item, rest) ← readValue fuel text
    match skipSpace rest with
    | ',' :: rest => do
      let (items, rest) ← readItems fuel rest
      return (item :: items, rest)
    | ']' :: rest => return ([item], rest)
    | _ => none

def readMembers (fuel : Nat) (text : List Char) :
    Option (List (Option String × Json) × List Char) :=
  match fuel with
  | 0 => none
  | fuel + 1 =>
    match skipSpace text with
    | '"' :: rest => do
      let (name, rest) ← readString rest
      match skipSpace rest with
      | ':' :: rest => do
        let (value, rest) ← readValue fuel rest
        match skipSpace rest with
        | ',' :: rest => do
          let (members, rest) ← readMembers fuel rest
          return ((name, value) :: members, rest)
        | '}' :: rest => return ([(name, value)], rest)
        | _ => none
      | _ => none
    | _ => none

end

def read? (text : String) : Option Json :=
  let characters := text.toList
  match readValue (2 * characters.length + 1) characters with
  | some (value, rest) => if (skipSpace rest).isEmpty then some value else none
  | none => none

end PeriodicalSearch.Json
