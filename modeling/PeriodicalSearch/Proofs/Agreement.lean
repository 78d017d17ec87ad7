import Mathlib.Data.List.Forall2

/-! Two computations that agree: both fail for the same reason, or both have results and these are
related. Computations agree as soon as their steps do. -/

namespace PeriodicalSearch

variable {ε α β γ δ : Type}

/-- Both fail for the same reason, or both have results and these are related. -/
inductive Agree (related : α → β → Prop) : Except ε α → Except ε β → Prop
  | ok {one : α} {other : β} (holds : related one other) : Agree related (.ok one) (.ok other)
  | error (failure : ε) : Agree related (.error failure) (.error failure)

namespace Agree

variable {related : α → β → Prop} {later : γ → δ → Prop}

theorem refl {related : α → α → Prop} (each : ∀ value, related value value)
    {result : Except ε α} : Agree related result result := by
  cases result with
  | error failure => exact .error failure
  | ok value => exact .ok (each value)

theorem bind {one : Except ε α} {other : Except ε β} {f : α → Except ε γ} {g : β → Except ε δ}
    (agree : Agree related one other)
    (next : ∀ a b, related a b → Agree later (f a) (g b)) :
    Agree later (one >>= f) (other >>= g) := by
  cases agree with
  | ok holds => exact next _ _ holds
  | error failure => exact .error failure

theorem mapError {ζ : Type} {one : Except ε α} {other : Except ε β} (agree : Agree related one other)
    (f : ε → ζ) : Agree related (one.mapError f) (other.mapError f) := by
  cases agree with
  | ok holds => exact .ok holds
  | error failure => exact .error (f failure)

theorem mapM {f : α → Except ε γ} {g : β → Except ε δ} {list : List α} {others : List β}
    (pairs : List.Forall₂ related list others)
    (each : ∀ a b, related a b → Agree later (f a) (g b)) :
    Agree (List.Forall₂ later) (list.mapM f) (others.mapM g) := by
  induction pairs with
  | nil => exact .ok .nil
  | cons first rest step =>
    rw [List.mapM_cons, List.mapM_cons]
    refine (each _ _ first).bind fun a b head => ?_
    exact step.bind fun as bs tail => .ok (.cons head tail)

theorem eq {one other : Except ε α} (agree : Agree Eq one other) : one = other := by
  cases agree with
  | ok same => rw [same]
  | error failure => rfl

end Agree

end PeriodicalSearch
