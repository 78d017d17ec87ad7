import Mathlib.Data.List.Forall2

/-! Work on the items of a list that stops at the first item with a fault. Parts of the work join to
a whole that stops at the first fault of all. -/

namespace PeriodicalSearch

variable {ι κ ε α β : Type} {fault? : ι → Option ε} {result : Except ε α} {property : α → Prop}

def failure? : Except ε α → Option ε
  | .ok _ => none
  | .error failure => some failure

/-- The result has the property if none of the items has a fault, and is the first fault
otherwise. -/
structure ReportsFirst (fault? : ι → Option ε) (items : List ι) (result : Except ε α)
    (property : α → Prop) : Prop where
  succeeds : items.findSome? fault? = none → ∃ value, result = .ok value ∧ property value
  fails : ∀ fault, items.findSome? fault? = some fault → result = .error fault

namespace ReportsFirst

theorem ok {value : α} (holds : property value) :
    ReportsFirst fault? [] (.ok value) property :=
  ⟨fun _ => ⟨value, rfl, holds⟩, fun _ none => nomatch none⟩

theorem bind {one other : List ι} {next : α → Except ε β} {later : β → Prop}
    (before : ReportsFirst fault? one result property)
    (after : ∀ value, property value → ReportsFirst fault? other (next value) later) :
    ReportsFirst fault? (one ++ other) (result >>= next) later where
  succeeds none := by
    rw [List.findSome?_append, Option.or_eq_none_iff] at none
    obtain ⟨value, rfl, holds⟩ := before.succeeds none.1
    exact (after value holds).succeeds none.2
  fails fault found := by
    rw [List.findSome?_append, Option.or_eq_some_iff] at found
    rcases found with early | ⟨none, late⟩
    · rw [before.fails fault early]
      rfl
    · obtain ⟨value, rfl, holds⟩ := before.succeeds none
      exact (after value holds).fails fault late

theorem map {items : List ι} {later : β → Prop} {f : α → β}
    (before : ReportsFirst fault? items result property)
    (after : ∀ value, property value → later (f value)) :
    ReportsFirst fault? items (result >>= fun value => pure (f value)) later := by
  have reports : ReportsFirst fault? (items ++ []) (result >>= fun value => .ok (f value)) later :=
    before.bind fun value holds => ok (after value holds)
  rw [List.append_nil] at reports
  exact reports

variable {items : List ι}

theorem of_eq_ok (reports : ReportsFirst fault? items result property) {value : α}
    (made : result = .ok value) : items.findSome? fault? = none ∧ property value := by
  cases found : items.findSome? fault? with
  | some fault => cases made.symm.trans (reports.fails fault found)
  | none =>
    obtain ⟨other, same, holds⟩ := reports.succeeds found
    cases made.symm.trans same
    exact ⟨rfl, holds⟩

theorem eq_error_iff (reports : ReportsFirst fault? items result property) {fault : ε} :
    result = .error fault ↔ items.findSome? fault? = some fault := by
  refine ⟨fun failed => ?_, reports.fails fault⟩
  cases found : items.findSome? fault? with
  | some first => cases failed.symm.trans (reports.fails first found); rfl
  | none =>
    obtain ⟨value, same, -⟩ := reports.succeeds found
    cases failed.symm.trans same

theorem mono {later : α → Prop} (reports : ReportsFirst fault? items result property)
    (weaker : ∀ value, property value → later value) :
    ReportsFirst fault? items result later where
  succeeds none := (reports.succeeds none).imp fun value found => found.imp_right (weaker value)
  fails := reports.fails

theorem mem_iff_of_map_eq {list : List κ} {made : List α} {f : κ → Except ε α}
    (same : list.map f = made.map Except.ok) {value : α} :
    value ∈ made ↔ ∃ part ∈ list, f part = .ok value := by
  rw [← List.mem_map, same, List.mem_map_of_injective fun _ _ => Except.ok.inj]

/-- Work on a single item. -/
theorem single {item : ι} (same : fault? item = failure? result) :
    ReportsFirst fault? [item] result fun value => result = .ok value := by
  constructor
  · intro none
    rw [List.findSome?_singleton, same] at none
    cases made : result with
    | ok value => exact ⟨value, rfl, rfl⟩
    | error fault => rw [made] at none; cases none
  · intro fault found
    rw [List.findSome?_singleton, same] at found
    cases made : result with
    | ok value => rw [made] at found; cases found
    | error failure => rw [made] at found; cases found; rfl

/-- Work on the parts of a list, some of which have no item that may have a fault. -/
theorem mapM_filterMap (list : List κ) {item? : κ → Option ι} {f : κ → Except ε β}
    {made : κ → β → Prop}
    (each : ∀ part, ReportsFirst fault? (item? part).toList (f part) (made part)) :
    ReportsFirst fault? (list.filterMap item?) (list.mapM f) (List.Forall₂ made list) := by
  rw [List.filterMap_eq_flatMap_toList]
  induction list with
  | nil => exact .ok .nil
  | cons first others step =>
    rw [List.mapM_cons, List.flatMap_cons]
    refine (each first).bind fun value holds => step.map fun values rest => ?_
    exact .cons holds rest

/-- Work on each item of a list. -/
theorem mapM (list : List κ) {item : κ → ι} {f : κ → Except ε β}
    (same : ∀ part, fault? (item part) = failure? (f part)) :
    ReportsFirst fault? (list.map item) (list.mapM f) fun made =>
      list.map f = made.map Except.ok := by
  rw [← List.filterMap_eq_map]
  refine (mapM_filterMap list fun part => single (same part)).mono fun values each => ?_
  rw [← List.forall₂_eq_eq_eq, List.forall₂_map_left_iff, List.forall₂_map_right_iff]
  exact each

end ReportsFirst

end PeriodicalSearch
