/-!
JSON values, with what a reader of typed records asks of them: texts, integers and the members of
an object in the order they are written.
-/
namespace PeriodicalSearch

/-- A JSON value. A string whose escapes leave half of a surrogate pair is grammatical but has no
text. -/
inductive Json where
  | null
  | bool (value : Bool)
  | integer (value : Int)
  /-- A number with a fraction or an exponent, or a negative zero, as it is written. -/
  | decimal (literal : String)
  | string (text : Option String)
  | array (items : List Json)
  | object (members : List (Option String × Json))
  deriving Inhabited

namespace Json

def text (value : String) : Json := .string (some value)

def record (members : List (String × Json)) : Json :=
  .object (members.map fun member => (some member.1, member.2))

def ofOption {α : Type} (encode : α → Json) : Option α → Json
  | none => .null
  | some value => encode value

def member? (name : String) : Json → Option Json
  | .object members => members.lookup (some name)
  | _ => none

def text? : Json → Option String
  | .string text => text
  | _ => none

def integer? (low high : Int) : Json → Option Int
  | .integer value => if low ≤ value ∧ value ≤ high then some value else none
  | _ => none

end Json

end PeriodicalSearch
