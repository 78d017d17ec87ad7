import PeriodicalSearch.Condition
import PeriodicalSearch.Proofs.Sql.Placeholders

/-! Conditions without their bound values. The fragments of a condition, and with them the
parentheses in its text, come from its columns and its shape alone. -/

namespace PeriodicalSearch.Sql

variable {entity : Entity}

def Scalar.erased : Scalar entity → Scalar entity
  | .column named => .column named
  | .bound _ => .bound (.int 0)
  | .textOf scalar => .textOf scalar.erased
  | .upper scalar => .upper scalar.erased
  | .dayOf scalar => .dayOf scalar.erased

def Test.erased : Test entity → Test entity
  | .relation how left right => .relation how left.erased right.erased
  | .like subject pattern => .like subject.erased pattern.erased
  | .between subject low high => .between subject.erased low.erased high.erased
  | .isNull subject null => .isNull subject.erased null

def Expression.erased : Expression entity → Expression entity
  | .test leaf => .test leaf.erased
  | .truth value => .truth value
  | .join connective left right => .join connective left.erased right.erased

theorem Scalar.fragments_erased (scalar : Scalar entity) :
    scalar.erased.fragments = scalar.fragments.map Fragment.erased := by
  induction scalar with
  | column named => rfl
  | bound value => rfl
  | textOf scalar step => simp [erased, fragments, step, Fragment.erased]
  | upper scalar step => simp [erased, fragments, step, Fragment.erased]
  | dayOf scalar step => simp [erased, fragments, step, Fragment.erased]

theorem Test.fragments_erased (test : Test entity) (dialect : Dialect) :
    test.erased.fragments dialect = (test.fragments dialect).map Fragment.erased := by
  cases test <;> simp [erased, fragments, Scalar.fragments_erased, Fragment.erased]

theorem Fragment.map_erased_parenthesized (needed : Bool) (fragments : List Fragment) :
    (parenthesized needed fragments).map erased = parenthesized needed (fragments.map erased) := by
  cases needed with
  | false => rfl
  | true => simp [parenthesized, erased]

namespace Expression

theorem leftNeedsParentheses_erased (outer : Connective) (condition : Expression entity) :
    condition.erased.leftNeedsParentheses outer = condition.leftNeedsParentheses outer := by
  cases condition with
  | test leaf => cases leaf <;> rfl
  | _ => rfl

theorem rightNeedsParentheses_erased (condition : Expression entity) :
    condition.erased.rightNeedsParentheses = condition.rightNeedsParentheses := by
  cases condition with
  | test leaf => cases leaf <;> rfl
  | _ => rfl

theorem fragments_erased (condition : Expression entity) (dialect : Dialect) :
    condition.erased.fragments dialect = (condition.fragments dialect).map Fragment.erased := by
  induction condition with
  | test leaf => exact leaf.fragments_erased dialect
  | truth value => rfl
  | join outer left right leftSame rightSame =>
    simp only [erased, fragments, leftNeedsParentheses_erased, rightNeedsParentheses_erased,
      leftSame, rightSame, List.map_append, List.map_cons, Fragment.map_erased_parenthesized,
      Fragment.erased]

theorem erased_joined (connective : Connective) (members : List (Expression entity)) :
    (joined connective members).erased = joined connective (members.map erased) := by
  cases members with
  | nil => rfl
  | cons first others =>
    simp only [joined, List.map_cons]
    induction others generalizing first with
    | nil => rfl
    | cons next others step =>
      rw [List.foldl_cons, List.map_cons, List.foldl_cons]
      exact step (join connective first next)

variable {dialect : Dialect}

theorem encloses_join (outer : Connective) {left right : Expression entity}
    {parts others : List (List Fragment)} (first : Fragment.Encloses (left.fragments dialect) parts)
    (second : Fragment.Encloses (right.fragments dialect) others) :
    Fragment.Encloses ((join outer left right).fragments dialect) (parts ++ others) :=
  (first.parenthesized _).append ((second.parenthesized _).words _)

/-- A chain encloses the parts of its members, in their order. -/
theorem encloses_joined {ι : Type} (connective : Connective) (members : List ι)
    (condition : ι → Expression entity) (parts : ι → List (List Fragment))
    (each : ∀ member ∈ members,
      Fragment.Encloses ((condition member).fragments dialect) (parts member)) :
    Fragment.Encloses ((joined connective (members.map condition)).fragments dialect)
      (members.flatMap parts) := by
  cases members with
  | nil => exact .words _ .nil
  | cons first others =>
    rw [List.forall_mem_cons] at each
    obtain ⟨begun, each⟩ := each
    rw [List.map_cons, joined, List.flatMap_cons]
    -- What is joined already grows along the chain, and with it the parts.
    generalize condition first = joined, parts first = enclosed at begun
    induction others generalizing joined enclosed with
    | nil =>
      rw [List.flatMap_nil, List.append_nil]
      exact begun
    | cons next others step =>
      rw [List.forall_mem_cons] at each
      obtain ⟨following, each⟩ := each
      rw [List.map_cons, List.foldl_cons, List.flatMap_cons, ← List.append_assoc]
      exact step each _ _ (encloses_join connective begun following)

end Expression

end PeriodicalSearch.Sql
