import PeriodicalSearch.Sql.Expression

/-!
The text of SQL statements. A statement is put together from fragments: fixed words, names that the
dialect quotes, and bound values, each of which becomes one placeholder in the text.
-/
namespace PeriodicalSearch.Sql

inductive Dialect where
  | sqlite
  | postgres
  | mysql
  deriving DecidableEq

inductive Fragment where
  | words (text : String)
  | name (text : String)
  | bound (value : Value)

structure Statement where
  sql : String
  values : List Value

namespace Dialect

def quote (dialect : Dialect) (name : String) : String :=
  match dialect with
  | .mysql => "\x60" ++ name ++ "\x60"
  | .sqlite | .postgres => "\"" ++ name ++ "\""

def placeholder (dialect : Dialect) (before : Nat) : String :=
  match dialect with
  | .postgres => "$" ++ toString (before + 1)
  | .sqlite | .mysql => "?"

def backslash : Dialect → String
  | .sqlite => "'\\'"
  | .postgres => "E'\\\\'"
  | .mysql => "'\\\\'"

end Dialect

namespace Fragment

def text (dialect : Dialect) : (before : Nat) → List Fragment → String
  | _, [] => ""
  | before, .words fixed :: fragments => fixed ++ text dialect before fragments
  | before, .name written :: fragments => dialect.quote written ++ text dialect before fragments
  | before, .bound _ :: fragments =>
    dialect.placeholder before ++ text dialect (before + 1) fragments

def value? : Fragment → Option Value
  | .bound value => some value
  | _ => none

def statement (dialect : Dialect) (fragments : List Fragment) : Statement :=
  ⟨text dialect 0 fragments, fragments.filterMap value?⟩

def separated (separator : String) : List (List Fragment) → List Fragment
  | [] => []
  | [item] => item
  | item :: items => item ++ .words separator :: separated separator items

def parenthesized (needed : Bool) (fragments : List Fragment) : List Fragment :=
  if needed then .words "(" :: (fragments ++ [.words ")"]) else fragments

end Fragment

variable {entity : Entity}

def columnFragments (column : entity.Column) : List Fragment :=
  [.name entity.name, .words ".", .name column.name]

def Scalar.fragments : Scalar entity → List Fragment
  | .column named => columnFragments named
  | .bound value => [.bound value]
  | .textOf scalar => .words "CAST(" :: (scalar.fragments ++ [.words " AS TEXT)"])
  | .upper scalar => .words "UPPER(" :: (scalar.fragments ++ [.words ")"])
  | .dayOf scalar => .words "DATE(" :: (scalar.fragments ++ [.words ")"])

def Relation.sign : Relation → String
  | .equal => "="
  | .atMost => "<="
  | .atLeast => ">="

def Test.fragments (dialect : Dialect) : Test entity → List Fragment
  | .relation how left right =>
    left.fragments ++ .words (" " ++ how.sign ++ " ") :: right.fragments
  | .like subject pattern =>
    subject.fragments ++ .words " LIKE " ::
      (pattern.fragments ++ [.words (" ESCAPE " ++ dialect.backslash)])
  | .between subject low high =>
    subject.fragments ++ .words " BETWEEN " ::
      (low.fragments ++ .words " AND " :: high.fragments)
  | .isNull subject null =>
    subject.fragments ++ [.words (if null then " IS NULL" else " IS NOT NULL")]

def Connective.word : Connective → String
  | .any => "OR"
  | .all => "AND"

def Expression.leftNeedsParentheses (outer : Connective) : Expression entity → Bool
  | .test (.between ..) => true
  | .test _ => false
  | .truth _ => false
  | .join inner _ _ => inner != outer

def Expression.rightNeedsParentheses : Expression entity → Bool
  | .test (.between ..) => true
  | .test _ => false
  | .truth _ => false
  | .join .. => true

def Expression.fragments (dialect : Dialect) : Expression entity → List Fragment
  | .test leaf => leaf.fragments dialect
  | .truth value => [.words (if value then "TRUE" else "FALSE")]
  | .join outer left right =>
    Fragment.parenthesized (left.leftNeedsParentheses outer) (left.fragments dialect) ++
      .words (" " ++ outer.word ++ " ") ::
        Fragment.parenthesized right.rightNeedsParentheses (right.fragments dialect)

inductive Direction where
  | ascending
  | descending
  deriving DecidableEq

def Direction.word : Direction → String
  | .ascending => "ASC"
  | .descending => "DESC"

structure SortKey (entity : Entity) where
  column : entity.Column
  direction : Direction
  deriving DecidableEq

structure Select (entity : Entity) where
  condition : Option (Expression entity)
  sortKey : Option (SortKey entity)

def selectFragments (entity : Entity) : List Fragment :=
  .words "SELECT " ::
    (Fragment.separated ", " (entity.columns.map columnFragments) ++
      [.words " FROM ", .name entity.name])

def Select.statement (select : Select entity) (dialect : Dialect) : Statement :=
  let condition := match select.condition with
    | some condition => .words " WHERE " :: condition.fragments dialect
    | none => []
  let ordering := match select.sortKey with
    | some key =>
      .words " ORDER BY " :: (columnFragments key.column ++ [.words (" " ++ key.direction.word)])
    | none => []
  Fragment.statement dialect (selectFragments entity ++ condition ++ ordering)

end PeriodicalSearch.Sql
