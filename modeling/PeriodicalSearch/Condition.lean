import PeriodicalSearch.Predicate
import PeriodicalSearch.Search.Failure
import PeriodicalSearch.Sql.Expression
import PeriodicalSearch.Text.UpperCase

/-!
Predicates as conditions on the rows of a collection. The fields of a predicate become columns, and
a group of conditions becomes one expression whose members are joined from the left.
-/
namespace PeriodicalSearch

open Sql

variable {entity : Entity}

inductive Condition (entity : Entity) where
  | test (test : Test entity)
  | group (connective : Connective) (members : List (Condition entity))

structure ConditionGroup (entity : Entity) where
  connective : Connective
  members : List (Condition entity)

namespace ConditionGroup

def single (test : Test entity) : ConditionGroup entity := ⟨.all, [.test test]⟩

/-- The group as a member of another; a group with one member is that member. -/
def asMember (group : ConditionGroup entity) : Condition entity :=
  match group.members with
  | [member] => member
  | members => .group group.connective members

def never : ConditionGroup entity :=
  single (.relation .equal (.bound (.int 1)) (.bound (.int 0)))

end ConditionGroup

namespace Lookup

def escapeWildcards (text : List Char) : List Char :=
  text.flatMap fun c => if c = '\\' ∨ c = '%' ∨ c = '_' then ['\\', c] else [c]

def containsPattern (text : String) : String :=
  String.ofList ('%' :: (Text.capitals (escapeWildcards text.toList) ++ ['%']))

def upperText (column : entity.Column) : Scalar entity := .upper (.textOf (.column column))

def dayOf (column : entity.Column) : Scalar entity := .dayOf (.column column)

def operandValue : Operand → Value
  | .text value => .string value
  | .integer value => .bigInt value
  | .boolean value => .bool value
  | .date value => .date value

def rangeTest (column : entity.Column) : Range Date → Test entity
  | .upTo last => .relation .atMost (dayOf column) (.bound (.date last))
  | .since first => .relation .atLeast (dayOf column) (.bound (.date first))
  | .between first last => .between (dayOf column) (.bound (.date first)) (.bound (.date last))

def test (column : entity.Column) : Lookup → Test entity
  | .contains text => .like (upperText column) (.bound (.string (containsPattern text)))
  | .equals text => .relation .equal (upperText column) (.bound (.string (Text.upperCase text)))
  | .exact operand => .relation .equal (.column column) (.bound (operandValue operand))
  | .isNull null => .isNull (.column column) null
  | .within range => rangeTest column range

end Lookup

namespace ConditionGroup

mutual

/-- The condition that a predicate puts on the rows of a collection; it fails at the first field
that the collection lacks. -/
def ofPredicate (entity : Entity) :
    Predicate → Except SearchFailure (ConditionGroup entity)
  | .any [] => .ok never
  | .any (first :: others) => do
    let members ← membersOf entity (first :: others)
    return ⟨.any, members⟩
  | .all predicates => do
    let members ← membersOf entity predicates
    return ⟨.all, members⟩
  | .compare field lookup =>
    match entity.column? field with
    | some column => .ok (single (lookup.test column))
    | none => .error (.unknownField field)
  | .nothing => .ok never

def membersOf (entity : Entity) :
    List Predicate → Except SearchFailure (List (Condition entity))
  | [] => .ok []
  | predicate :: predicates => do
    let group ← ofPredicate entity predicate
    let members ← membersOf entity predicates
    return group.asMember :: members

end

end ConditionGroup

/-- Expressions joined from the left; no expressions at all are true for `all` and false for
`any`. -/
def Sql.Expression.joined (connective : Connective) :
    List (Expression entity) → Expression entity
  | [] => .truth (connective == .all)
  | first :: others => others.foldl (Expression.join connective) first

mutual

def Condition.expression : Condition entity → Expression entity
  | .test leaf => .test leaf
  | .group connective members => .joined connective (Condition.expressions members)

def Condition.expressions : List (Condition entity) → List (Expression entity)
  | [] => []
  | member :: members => member.expression :: Condition.expressions members

end

def ConditionGroup.expression (group : ConditionGroup entity) : Expression entity :=
  .joined group.connective (Condition.expressions group.members)

end PeriodicalSearch
