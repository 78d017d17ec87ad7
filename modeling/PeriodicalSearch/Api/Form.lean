import PeriodicalSearch.Api.Options
import PeriodicalSearch.Text.Hexadecimal
import PeriodicalSearch.Text.Utf8

/-!
Options in the query part of an address: pairs of names and values, encoded as forms are. The first
fault from the left decides.
-/
namespace PeriodicalSearch

namespace Form

def octet? (high low : UInt8) : Option UInt8 := do
  let high ← Text.hexValue? (Char.ofNat high.toNat)
  let low ← Text.hexValue? (Char.ofNat low.toNat)
  return UInt8.ofNat (high * 16 + low)

/-- The octets with plus signs as spaces and percent escapes resolved; a percent sign that no two
digits follow stands for itself. -/
def decodeOctets : List UInt8 → List UInt8
  | [] => []
  | octet :: rest =>
    if octet = '%'.toUInt8 then
      match rest with
      | high :: low :: rest =>
        match octet? high low with
        | some decoded => decoded :: decodeOctets rest
        | none => octet :: decodeOctets (high :: low :: rest)
      | rest => octet :: decodeOctets rest
    else if octet = '+'.toUInt8 then
      ' '.toUInt8 :: decodeOctets rest
    else
      octet :: decodeOctets rest
termination_by octets => octets.length

def decode (text : List Char) : String :=
  String.ofList (Text.readUtf8 (decodeOctets (Text.utf8Octets text)))

def pieces (separator : Char) : List Char → List (List Char)
  | [] => [[]]
  | c :: rest =>
    if c = separator then [] :: pieces separator rest
    else
      match pieces separator rest with
      | first :: others => (c :: first) :: others
      | [] => [[c]]

def pair (piece : List Char) : String × String :=
  (decode (piece.takeWhile (· != '=')), decode ((piece.dropWhile (· != '=')).drop 1))

def pairs (text : List Char) : List (String × String) :=
  ((pieces '&' text).filter (fun piece => !piece.isEmpty)).map pair

inductive Fault where
  | duplicate (name : String)
  | number (name : String) (fault : Text.NumberFault)
  deriving DecidableEq

def Fault.message : Fault → String
  | .duplicate name => "Failed to deserialize query string: duplicate field \x60" ++ name ++ "\x60"
  | .number name fault => "Failed to deserialize query string: " ++ name ++ ": " ++ fault.message

def setText (name : String) (current : Option String) (value : String) :
    Except Fault (Option String) :=
  match current with
  | some _ => .error (.duplicate name)
  | none => .ok (some value)

def setNumber (name : String) (current : Option UInt64) (value : String) :
    Except Fault (Option UInt64) :=
  match current with
  | some _ => .error (.duplicate name)
  | none =>
    match Text.readUnsigned Text.maxUInt64 value.toList with
    | .ok number => .ok (some (UInt64.ofNat number))
    | .error fault => .error (.number name fault)

/-- The options with one more pair taken into account; names that are no options do not count. -/
def setOption (options : ListOptions) (pair : String × String) : Except Fault ListOptions :=
  if pair.1 = "search" then
    (setText pair.1 options.search pair.2).map fun search => { options with search }
  else if pair.1 = "sort" then
    (setText pair.1 options.sort pair.2).map fun sort => { options with sort }
  else if pair.1 = "page" then
    (setNumber pair.1 options.page pair.2).map fun page => { options with page }
  else if pair.1 = "per_page" then
    (setNumber pair.1 options.perPage pair.2).map fun perPage => { options with perPage }
  else
    .ok options

def options (text : List Char) : Except Fault ListOptions :=
  (pairs text).foldlM setOption ListOptions.empty

end Form

end PeriodicalSearch
