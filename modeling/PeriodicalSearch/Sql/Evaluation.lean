import PeriodicalSearch.Sql.Cell
import PeriodicalSearch.Sql.Expression
import PeriodicalSearch.Sql.Like
import PeriodicalSearch.Text.Utf8

/-!
What conditions mean to SQLite. A test of a null is neither true nor false; `OR` is true when one
side is, `AND` is false when one side is, and a query keeps the rows on which its condition is true.
-/
namespace PeriodicalSearch.Sql

abbrev Truth := Option Bool

namespace Truth

def or : Truth → Truth → Truth
  | some true, _ => some true
  | _, some true => some true
  | some false, some false => some false
  | _, _ => none

def and : Truth → Truth → Truth
  | some false, _ => some false
  | _, some false => some false
  | some true, some true => some true
  | _, _ => none

def join : Connective → Truth → Truth → Truth
  | .any => or
  | .all => and

end Truth

def Value.cell : Value → Cell
  | .string value => .text value.toList
  | .int value => .integer value
  | .bigInt value => .integer value
  | .bool value => .integer (if value then 1 else 0)
  | .date value => .text value.text
  | .uuid value => .uuid value

def Cell.ofText? : Option (List Char) → Cell
  | none => .null
  | some characters => .text characters

def spelling (text : List Char) : List Nat :=
  (text.flatMap String.utf8EncodeChar).map UInt8.toNat

def capitalOctet (octet : Nat) : Nat :=
  if 0x61 ≤ octet ∧ octet ≤ 0x7A then octet - 0x20 else octet

/-- What an expression is worth: a cell, or the octets of an identifier as a text. -/
inductive Content where
  | cell (kept : Cell)
  | spelt (octets : List Nat)
  deriving DecidableEq

namespace Content

def asText : Content → Content
  | .cell (.uuid id) => .spelt id.octets
  | .cell kept => .cell (.ofText? kept.text?)
  | .spelt octets => .spelt octets

/-- `UPPER(…)`, which makes capitals of ASCII letters only. -/
def inCapitals (content : Content) : Content :=
  match content.asText with
  | .cell kept => .cell (.ofText? (kept.text?.map (List.map Char.toUpper)))
  | .spelt octets => .spelt (octets.map capitalOctet)

def day : Content → Content
  | .cell kept => .cell (.ofText? kept.day?)
  | .spelt octets => .cell (.ofText? ((dayInText? (looseText octets)).map Date.text))

def read? : Content → Option (List Char)
  | .cell (.uuid id) => some (visible (looseText id.octets))
  | .cell kept => kept.text?.map readText
  | .spelt octets => some (visible (looseText octets))

def size : Content → Nat
  | .cell (.uuid id) => id.octets.length
  | .cell kept => (kept.text?.map Text.utf8Length).getD 0
  | .spelt octets => octets.length

def textOctets? : Content → Option (List Nat)
  | .cell (.integer _) => none
  | .cell kept => kept.text?.map spelling
  | .spelt octets => some octets

def rank : Content → Nat
  | .cell kept => kept.rank
  | .spelt _ => (Cell.text []).rank

def number? : Content → Option Numeral
  | .cell (.integer value) => some (Numeral.ofInt value)
  | .cell (.text value) => Numeral.ofText? value
  | .spelt octets => Numeral.ofText? (looseText octets)
  | _ => none

def compare (one other : Content) : Ordering :=
  match one, other with
  | .cell one, .cell other => one.compare other
  | one, other =>
    match one.textOctets?, other.textOctets? with
    | some octets, some octets' => Ord.compare octets octets'
    | _, _ => Ord.compare one.rank other.rank

def compareNumbers (one other : Content) : Ordering :=
  match one.number?, other.number? with
  | some number, some number' => number.compare number'
  | some _, none => .lt
  | none, some _ => .gt
  | none, none => one.compare other

end Content

inductive Affinity where
  | numeric
  | text
  | none
  deriving DecidableEq

namespace Affinity

/-- The affinity of a comparison: a side without any takes that of the other, and between two
columns only a numeric one counts. -/
def between : Affinity → Affinity → Affinity
  | .none, other => other
  | own, .none => own
  | .numeric, _ | _, .numeric => .numeric
  | .text, .text => .none

/-- The order of two contents, in a comparison of this affinity. A number is compared as its text
with a text only. -/
def compare (affinity : Affinity) (one other : Content) : Ordering :=
  match affinity, one, other with
  | .numeric, one, other => one.compareNumbers other
  | .text, .cell (.integer value), other =>
    if other.textOctets?.isSome then (Content.cell (.text (integerText value))).compare other
    else (Content.cell (.integer value)).compare other
  | .text, one, .cell (.integer value) =>
    if one.textOctets?.isSome then one.compare (.cell (.text (integerText value)))
    else one.compare (.cell (.integer value))
  | _, one, other => one.compare other

end Affinity

variable {entity : Entity}

abbrev Row (entity : Entity) := entity.Column → Cell

def Scalar.eval (row : Row entity) : Scalar entity → Content
  | .column named => .cell (row named)
  | .bound value => .cell value.cell
  | .textOf scalar => (scalar.eval row).asText
  | .upper scalar => (scalar.eval row).inCapitals
  | .dayOf scalar => (scalar.eval row).day

/-- The affinity of an expression. Columns of integers are declared as such, and all others as a
kind of text. -/
def Scalar.affinity (row : Row entity) : Scalar entity → Affinity
  | .column named =>
    match row named with
    | .integer _ => .numeric
    | _ => .text
  | .textOf _ => .text
  | _ => .none

def Relation.accepts : Relation → Ordering → Bool
  | .equal, order => order == .eq
  | .atMost, order => order != .gt
  | .atLeast, order => order != .lt

def Relation.eval (row : Row entity) (relation : Relation) (left right : Scalar entity) : Truth :=
  if left.eval row = .cell .null ∨ right.eval row = .cell .null then none
  else some (relation.accepts (((left.affinity row).between (right.affinity row)).compare
    (left.eval row) (right.eval row)))

def Test.eval (row : Row entity) : Test entity → Truth
  | .relation how left right => how.eval row left right
  | .like subject pattern =>
    match (subject.eval row).read?, (pattern.eval row).read? with
    | some subject, some pattern => some (Sql.like pattern subject)
    | _, _ => none
  | .between subject low high =>
    Truth.and (Relation.atLeast.eval row subject low) (Relation.atMost.eval row subject high)
  | .isNull subject null => some ((subject.eval row == .cell .null) == null)

def Expression.under (truth : Test entity → Truth) : Expression entity → Truth
  | .test leaf => truth leaf
  | .truth value => some value
  | .join outer left right => Truth.join outer (left.under truth) (right.under truth)

/-- A query keeps the rows on which its condition is true, and no row on which it is unknown. -/
def Expression.keeps (row : Row entity) (condition : Expression entity) : Bool :=
  condition.under (Test.eval row) == some true

def Test.completes (row : Row entity) : Test entity → Bool
  | .like _ pattern => (pattern.eval row).size ≤ maxPatternSize
  | _ => true

/-- The database can evaluate the condition on the row, where it has no index that spares it the
row. It goes from the left and stops as soon as the rest cannot change whether the row is kept. -/
def Expression.completes (row : Row entity) : Expression entity → Bool
  | .test leaf => leaf.completes row
  | .truth _ => true
  | .join .any left right => left.completes row && (left.keeps row || right.completes row)
  | .join .all left right => left.completes row && (!left.keeps row || right.completes row)

end PeriodicalSearch.Sql
