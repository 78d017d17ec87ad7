import PeriodicalSearch.Condition
import PeriodicalSearch.Sql.Evaluation

/-! Joined conditions. A query keeps a row by its truth alone, so unknown tests may be taken for
false ones: a chain is true if some of its members are, or if all of them are. The chain is a tree
that leans to the left, as high as it is long. -/

namespace PeriodicalSearch.Sql

variable {entity : Entity} {truth : Test entity → Truth}

theorem Truth.or_eq_true (one other : Truth) :
    (Truth.or one other == some true) = (one == some true || other == some true) := by
  rcases one with _ | _ | _ <;> rcases other with _ | _ | _ <;> rfl

theorem Truth.and_eq_true (one other : Truth) :
    (Truth.and one other == some true) = (one == some true && other == some true) := by
  rcases one with _ | _ | _ <;> rcases other with _ | _ | _ <;> rfl

namespace Expression

def isTrue (truth : Test entity → Truth) (condition : Expression entity) : Bool :=
  condition.under truth == some true

theorem isTrue_join_any (left right : Expression entity) :
    (join .any left right).isTrue truth = (left.isTrue truth || right.isTrue truth) :=
  Truth.or_eq_true (left.under truth) (right.under truth)

theorem isTrue_join_all (left right : Expression entity) :
    (join .all left right).isTrue truth = (left.isTrue truth && right.isTrue truth) :=
  Truth.and_eq_true (left.under truth) (right.under truth)

theorem isTrue_joined_any (members : List (Expression entity)) :
    (joined .any members).isTrue truth = members.any (isTrue truth) := by
  cases members with
  | nil => rfl
  | cons first others =>
    rw [joined, List.any_cons]
    -- The first member grows along the chain, and with it the hypothesis.
    induction others generalizing first with
    | nil => rw [List.foldl_nil, List.any_nil, Bool.or_false]
    | cons next others step =>
      rw [List.foldl_cons, step, isTrue_join_any, List.any_cons, Bool.or_assoc]

theorem isTrue_joined_all (members : List (Expression entity)) :
    (joined .all members).isTrue truth = members.all (isTrue truth) := by
  cases members with
  | nil => rfl
  | cons first others =>
    rw [joined, List.all_cons]
    induction others generalizing first with
    | nil => rw [List.foldl_nil, List.all_nil, Bool.and_true]
    | cons next others step =>
      rw [List.foldl_cons, step, isTrue_join_all, List.all_cons, Bool.and_assoc]

variable {connective : Connective}

theorem height_joined_ge (first : Expression entity) (others : List (Expression entity)) :
    first.height + others.length ≤ (joined connective (first :: others)).height := by
  rw [joined]
  induction others generalizing first with
  | nil => exact Nat.le_refl _
  | cons next others step =>
    have bound := step (join connective first next)
    have raised : first.height + 1 ≤ (join connective first next).height :=
      Nat.succ_le_succ (Nat.le_max_left ..)
    rw [List.foldl_cons, List.length_cons]
    omega

theorem height_joined_le {bound : Nat} (first : Expression entity)
    (others : List (Expression entity)) (low : ∀ member ∈ first :: others, member.height ≤ bound) :
    (joined connective (first :: others)).height ≤ bound + others.length := by
  rw [joined]
  induction others generalizing first bound with
  | nil => exact low first List.mem_cons_self
  | cons next others step =>
    have firstLow := low first List.mem_cons_self
    have nextLow := low next (List.mem_cons_of_mem _ List.mem_cons_self)
    have higher : ∀ member ∈ join connective first next :: others, member.height ≤ bound + 1 := by
      intro member found
      rcases List.mem_cons.1 found with same | later
      · rw [same]
        exact Nat.succ_le_succ (Nat.max_le.2 ⟨firstLow, nextLow⟩)
      · have lower := low member (List.mem_cons_of_mem _ (List.mem_cons_of_mem _ later))
        omega
    have raised := step (join connective first next) higher
    rw [List.foldl_cons, List.length_cons]
    omega

theorem height_pos (condition : Expression entity) : 1 ≤ condition.height := by
  cases condition with
  | test leaf => cases leaf <;> exact Nat.le_add_left ..
  | truth value => exact Nat.le_refl 1
  | join connective left right => exact Nat.le_add_left ..

theorem length_le_height_joined (members : List (Expression entity)) :
    members.length ≤ (joined connective members).height := by
  cases members with
  | nil => exact Nat.zero_le _
  | cons first others =>
    have start := first.height_pos
    have raised : _ ≤ (joined connective (first :: others)).height :=
      height_joined_ge first others
    rw [List.length_cons]
    omega

theorem joined_append (first : Expression entity) (others more : List (Expression entity)) :
    joined connective (first :: others ++ more) =
      joined connective (joined connective (first :: others) :: more) := by
  rw [joined, joined, List.cons_append, joined, List.foldl_append]

/-- Members behind others are raised by those behind them only. -/
theorem height_joined_append_le {low high : Nat} {members more : List (Expression entity)}
    (nonempty : members ++ more ≠ []) (lower : ∀ member ∈ members, member.height ≤ low)
    (higher : ∀ member ∈ more, member.height ≤ high) :
    (joined connective (members ++ more)).height ≤
      max (low + (members ++ more).length - 1) (high + more.length) := by
  cases members with
  | nil =>
    cases more with
    | nil => exact absurd rfl nonempty
    | cons first others =>
      have bound : (joined connective (first :: others)).height ≤ _ :=
        height_joined_le first others higher
      rw [List.nil_append, List.length_cons]
      omega
  | cons first others =>
    have start : (joined connective (first :: others)).height ≤ _ :=
      height_joined_le first others lower
    have bounds : ∀ member ∈ joined connective (first :: others) :: more,
        member.height ≤ max (low + others.length) high := by
      intro member found
      rcases List.mem_cons.1 found with rfl | later
      · exact Nat.le_trans start (Nat.le_max_left ..)
      · exact Nat.le_trans (higher member later) (Nat.le_max_right ..)
    have bound : (joined connective (joined connective (first :: others) :: more)).height ≤ _ :=
      height_joined_le _ more bounds
    rw [joined_append]
    simp only [List.length_append, List.length_cons]
    omega

end Expression

end PeriodicalSearch.Sql
