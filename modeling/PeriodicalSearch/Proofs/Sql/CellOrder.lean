import Mathlib
import PeriodicalSearch.Sql.Cell

/-! The order of cells. Cells of different kinds are ordered by their kinds; within a kind only one
of number, letters and bits tells cells apart, and the others are the same for all of them. So the
order compares the four one after the other, and inherits its laws from them. -/

namespace PeriodicalSearch.Sql.Cell

def number : Cell → Int
  | .integer value => value
  | _ => 0

def letters : Cell → List Char
  | .text value => value
  | .date value => value.text
  | .moment value => value.storedText
  | _ => []

def bits : Cell → Nat
  | .uuid value => value.bits.toNat
  | _ => 0

theorem compare_eq_compareLex : Cell.compare = compareLex (compareOn rank)
    (compareLex (compareOn number) (compareLex (compareOn letters) (compareOn bits))) := by
  funext one other
  -- Cells of different kinds are told apart by their ranks, which are numerals.
  cases one <;> cases other <;>
    first
    | rfl
    | simp [compare, compareLex, compareOn, rank, number, letters, bits, text?]

instance : Std.TransCmp Cell.compare := by
  rw [compare_eq_compareLex]
  infer_instance

theorem compare_eq_iff {one other : Cell} : one.compare other = .eq ↔
    one.rank = other.rank ∧ one.number = other.number ∧ one.letters = other.letters ∧
      one.bits = other.bits := by
  rw [compare_eq_compareLex]
  simp only [compareLex, compareOn, Ordering.then_eq_eq, Std.LawfulEqOrd.compare_eq_iff_eq]

end PeriodicalSearch.Sql.Cell
