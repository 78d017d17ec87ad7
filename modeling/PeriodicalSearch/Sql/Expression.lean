import PeriodicalSearch.Entity
import PeriodicalSearch.Calendar.Date
import PeriodicalSearch.Uuid

/-!
The conditions of SQL queries as expressions. Every text, number and day that comes from outside is
a bound value; an expression itself holds columns only.
-/
namespace PeriodicalSearch.Sql

inductive Value where
  | string (value : String)
  | int (value : Int)
  | bigInt (value : Int)
  | bool (value : Bool)
  | date (value : Date)
  | uuid (value : Uuid)
  deriving DecidableEq

inductive Scalar (entity : Entity) where
  | column (column : entity.Column)
  | bound (value : Value)
  /-- `CAST(… AS TEXT)` -/
  | textOf (scalar : Scalar entity)
  /-- `UPPER(…)` -/
  | upper (scalar : Scalar entity)
  /-- `DATE(…)` -/
  | dayOf (scalar : Scalar entity)
  deriving DecidableEq

inductive Relation where
  | equal
  | atMost
  | atLeast
  deriving DecidableEq

inductive Test (entity : Entity) where
  | relation (relation : Relation) (left right : Scalar entity)
  /-- `… LIKE … ESCAPE …`, with the backslash as the escape character. -/
  | like (subject pattern : Scalar entity)
  | between (subject low high : Scalar entity)
  /-- `… IS NULL`, or for `false` `… IS NOT NULL`. -/
  | isNull (subject : Scalar entity) (null : Bool)
  deriving DecidableEq

inductive Connective where
  | any
  | all
  deriving DecidableEq

inductive Expression (entity : Entity) where
  | test (test : Test entity)
  | truth (value : Bool)
  | join (connective : Connective) (left right : Expression entity)
  deriving DecidableEq

def Scalar.height {entity : Entity} : Scalar entity → Nat
  | .column _ => 2
  | .bound _ => 1
  | .textOf scalar => scalar.height + 1
  | .upper scalar => scalar.height + 1
  | .dayOf scalar => scalar.height + 1

def Test.height {entity : Entity} : Test entity → Nat
  | .relation _ left right => max left.height right.height + 1
  | .like subject pattern => max subject.height pattern.height + 1
  | .between subject low high => max subject.height (max low.height high.height) + 1
  | .isNull subject _ => subject.height + 1

def Expression.height {entity : Entity} : Expression entity → Nat
  | .test leaf => leaf.height
  | .truth _ => 1
  | .join _ left right => max left.height right.height + 1

/-- The height of the highest expression that the database evaluates. -/
def maxHeight : Nat := 1000

end PeriodicalSearch.Sql
