import PeriodicalSearch.Proofs.Condition.Leaves
import PeriodicalSearch.Proofs.Query.Octets
import PeriodicalSearch.Proofs.Sql.Connectives
import PeriodicalSearch.Proofs.Sql.Containment
import PeriodicalSearch.Sql.Evaluation

/-! How long the patterns of a condition are. A pattern has at most three octets for each of the text
that is looked for, and two for its ends. The database completes a condition whose patterns are not
too long, whatever the row. -/

namespace PeriodicalSearch

open Text Sql

variable {entity : Entity}

namespace Text

theorem expansions_are_short : ∀ entry ∈ caseExpansions,
    utf8Length (entry.2.map Char.ofNat) ≤ 6 := by
  decide +kernel

/-- A character beyond ASCII has two octets at least, and no capital has more than six. -/
theorem utf8Length_capital_le (c : Char) : utf8Length (capital c) ≤ 3 * c.utf8Size := by
  by_cases ascii : c.toNat < 0x80
  · have single : utf8Length [c.toUpper] ≤ 3 :=
      forall_ascii (fun c => utf8Length [c.toUpper] ≤ 3) (by decide) c ascii
    have positive := c.utf8Size_pos
    rw [capital, if_pos ascii]
    omega
  · have several : c.utf8Size ≠ 1 := fun one =>
      ascii (Nat.lt_succ_of_le (Char.utf8Size_eq_one_iff.1 one))
    have positive := c.utf8Size_pos
    have single (d : Char) : utf8Length [d] ≤ 4 := d.utf8Size_le_four
    rw [capital, if_neg ascii]
    split
    next codes found =>
      have short : utf8Length (codes.map Char.ofNat) ≤ 6 :=
        expansions_are_short _ (entry_of_lookup found)
      omega
    next =>
      split
      next code _ => exact Nat.le_trans (single (Char.ofNat code)) (by omega)
      next => exact Nat.le_trans (single c) (by omega)

end Text

namespace Lookup

theorem utf8Length_capitals_escapeWildcards_le (text : List Char) :
    utf8Length (capitals (escapeWildcards text)) ≤ 3 * utf8Length text := by
  induction text with
  | nil => exact Nat.le_refl 0
  | cons c text step =>
    rw [escapeWildcards_cons, capitals_append, utf8Length_append, utf8Length_cons]
    have first : utf8Length (capitals (if IsWildcard c then ['\\', c] else [c])) ≤
        3 * c.utf8Size := by
      by_cases wildcard : IsWildcard c
      · rw [if_pos wildcard]
        rcases wildcard with rfl | rfl | rfl <;> decide
      · rw [if_neg wildcard, capitals, List.flatMap_singleton]
        exact utf8Length_capital_le c
    omega

theorem utf8ByteSize_containsPattern_le (text : String) :
    (containsPattern text).utf8ByteSize ≤ 3 * text.utf8ByteSize + 2 := by
  have bound := utf8Length_capitals_escapeWildcards_le text.toList
  have sign : '%'.utf8Size = 1 := by decide
  rw [containsPattern, utf8ByteSize_ofList, utf8ByteSize_eq text]
  simp only [utf8Length_cons, utf8Length_append, utf8Length_nil, sign]
  omega

/-- The database takes the pattern of the comparison, if the comparison has one. -/
def IsTaken : Lookup → Prop
  | .contains text => (containsPattern text).utf8ByteSize ≤ maxPatternSize
  | _ => True

theorem completes_test_iff (row : Row entity) (column : entity.Column) (lookup : Lookup) :
    (lookup.test column).completes row = true ↔ lookup.IsTaken := by
  cases lookup with
  | contains text =>
    have size (pattern : List Char) : (Content.cell (.text pattern)).size = utf8Length pattern := rfl
    rw [test, Test.completes, Scalar.eval, Value.cell, size, decide_eq_true_iff, IsTaken,
      utf8ByteSize_eq]
  | within range => cases range <;> exact iff_of_true rfl trivial
  | _ => exact iff_of_true rfl trivial

end Lookup

namespace Sql.Expression

theorem completes_joined {row : Row entity} (connective : Connective)
    {members : List (Expression entity)} (each : ∀ member ∈ members, member.completes row = true) :
    (joined connective members).completes row = true := by
  have both {left right : Expression entity} (first : left.completes row = true)
      (second : right.completes row = true) : (join connective left right).completes row = true := by
    cases connective <;> rw [completes, first, second, Bool.or_true, Bool.and_true]
  cases members with
  | nil => rfl
  | cons first others =>
    rw [joined]
    induction others generalizing first with
    | nil => exact each first List.mem_cons_self
    | cons next others step =>
      rw [List.foldl_cons]
      obtain ⟨firstHolds, nextHolds, later⟩ := by simpa using each
      refine step (join connective first next) (List.forall_mem_cons.2 ⟨?_, later⟩)
      exact both firstHolds nextHolds

end Sql.Expression

namespace Predicate

def soughtPart? : Predicate → Option String
  | .compare _ (.contains text) => some text
  | _ => none

def soughtParts (predicate : Predicate) : List String := predicate.leaves.filterMap soughtPart?

@[simp] theorem soughtParts_any (members : List Predicate) :
    (any members).soughtParts = members.flatMap soughtParts := by
  cases members with
  | nil =>
    rw [soughtParts, leaves_any_nil]
    rfl
  | cons first others =>
    rw [soughtParts, leaves_any_cons, List.filterMap_flatMap]
    rfl

@[simp] theorem soughtParts_all (members : List Predicate) :
    (all members).soughtParts = members.flatMap soughtParts := by
  rw [soughtParts, leaves_all, List.filterMap_flatMap]
  rfl

@[simp] theorem soughtParts_compare (field : String) (lookup : Lookup) :
    (compare field lookup).soughtParts = (soughtPart? (compare field lookup)).toList := by
  rw [soughtParts, leaves_compare]
  cases lookup <;> rfl

@[simp] theorem soughtParts_nothing : nothing.soughtParts = [] := by
  rw [soughtParts, leaves_nothing]
  rfl

theorem completes_expression (row : Row entity) {predicate : Predicate}
    (short : ∀ text ∈ predicate.soughtParts,
      (Lookup.containsPattern text).utf8ByteSize ≤ maxPatternSize) :
    (predicate.expression entity).completes row = true := by
  induction predicate with
  | any members each =>
    cases members with
    | nil => rw [expression_any_nil]; rfl
    | cons first others =>
      rw [soughtParts_any, List.forall_mem_flatMap] at short
      rw [expression_any_cons]
      refine Expression.completes_joined _ (List.forall_mem_map.2 fun member listed => ?_)
      exact each member listed (short member listed)
  | all members each =>
    rw [soughtParts_all, List.forall_mem_flatMap] at short
    rw [expression_all]
    refine Expression.completes_joined _ (List.forall_mem_map.2 fun member listed => ?_)
    exact each member listed (short member listed)
  | compare field lookup =>
    rw [expression]
    cases entity.column? field with
    | none => rfl
    | some column =>
      rw [Expression.completes, Lookup.completes_test_iff]
      cases lookup with
      | contains text => exact short text (by simp [soughtPart?])
      | _ => trivial
  | nothing => rw [expression_nothing]; rfl

end Predicate

end PeriodicalSearch
