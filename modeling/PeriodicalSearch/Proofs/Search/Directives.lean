import PeriodicalSearch.Proofs.Condition.Meaning
import PeriodicalSearch.Proofs.Text.Trimming
import PeriodicalSearch.Search.Sorting

/-! What sort directives ask for. A directive that is not blank names one column, after a single
hyphen where the order is descending; the name is looked up as it stands, in the two spellings of
the columns. -/

namespace PeriodicalSearch

open Query (Blank)

/-- No name is that of two columns of a collection. -/
theorem Resource.column?_eq_some_iff {resource : Resource} {name : String}
    {column : resource.entity.Column} : resource.entity.column? name = some column ↔
      name = column.name ∨ name = column.camelName := by
  constructor
  · intro found
    have spelled := List.find?_some found
    rw [Bool.or_eq_true, beq_iff_eq, beq_iff_eq] at spelled
    exact spelled
  · cases resource <;> cases column <;> rintro (rfl | rfl) <;> decide

namespace Sql.SortKey

/-- Without the blanks around it the directive is the name, after a hyphen where the direction is
descending. -/
def Directs (directive name : String) (direction : Direction) : Prop :=
  ∃ core, Text.TrimsTo directive.toList core ∧ core ≠ [] ∧
    (core = '-' :: name.toList ∧ direction = .descending ∨
      core = name.toList ∧ core.head? ≠ some '-' ∧ direction = .ascending)

theorem nameAndDirection_eq_iff {core name : List Char} {direction : Direction} :
    nameAndDirection core = (name, direction) ↔ core = '-' :: name ∧ direction = .descending ∨
      core = name ∧ core.head? ≠ some '-' ∧ direction = .ascending := by
  unfold nameAndDirection
  split
  next rest =>
    rw [Prod.mk.injEq, List.cons.injEq, eq_comm (a := Direction.descending)]
    constructor
    · exact fun same => .inl ⟨⟨rfl, same.1⟩, same.2⟩
    · rintro (⟨⟨-, same⟩, down⟩ | ⟨-, plain, -⟩)
      · exact ⟨same, down⟩
      · exact absurd rfl plain
  next plain =>
    rw [Prod.mk.injEq, eq_comm (a := Direction.ascending)]
    have noHyphen : core.head? ≠ some '-' := fun hyphen =>
      have ⟨rest, same⟩ := List.head?_eq_some_iff.1 hyphen
      plain rest same
    constructor
    · exact fun same => .inr ⟨same.1, noHyphen, same.2⟩
    · rintro (⟨same, -⟩ | ⟨same, -, up⟩)
      · exact absurd same (plain name)
      · exact ⟨same, up⟩

theorem directs_iff {directive name : String} {direction : Direction} :
    Directs directive name direction ↔ ¬Blank directive.toList ∧
      nameAndDirection (Text.trimBlanks directive.toList) = (name.toList, direction) := by
  simp only [Directs, ← Text.trimBlanks_eq_iff, exists_eq_left', ← nameAndDirection_eq_iff,
    ← Text.trimBlanks_eq_nil_iff, ne_eq]

theorem Directs.unique {directive name other : String} {direction opposite : Direction}
    (directs : Directs directive name direction) (again : Directs directive other opposite) :
    name = other ∧ direction = opposite := by
  have same := (directs_iff.1 directs).2.symm.trans (directs_iff.1 again).2
  rw [Prod.mk.injEq, String.toList_inj] at same
  exact same

theorem blank_or_directs (directive : String) : Blank directive.toList ∨
    ∃ name direction, Directs directive name direction := by
  by_cases blank : Blank directive.toList
  · exact .inl blank
  · cases read : nameAndDirection (Text.trimBlanks directive.toList) with
    | mk name direction =>
      refine .inr ⟨String.ofList name, direction, directs_iff.2 ⟨blank, ?_⟩⟩
      rw [read, String.toList_ofList]

theorem Directs.not_blank {directive name : String} {direction : Direction}
    (directs : Directs directive name direction) : ¬Blank directive.toList :=
  (directs_iff.1 directs).1

variable {entity : Entity} {usual : SortKey entity}

theorem choose_of_blank {directive : String} (blank : Blank directive.toList) :
    choose usual (some directive) = .ok usual := by
  rw [choose, ofDirective?, Text.trimBlanks_eq_nil_iff.2 blank]
  rfl

theorem choose_of_directs {directive name : String} {direction : Direction}
    (directs : Directs directive name direction) : choose usual (some directive) =
      match entity.column? name with
      | some column => .ok ⟨column, direction⟩
      | none => .error (.unknownSortField name) := by
  obtain ⟨visible, read⟩ := directs_iff.1 directs
  rw [← Text.trimBlanks_eq_nil_iff] at visible
  rw [choose, ofDirective?]
  split
  next empty => exact absurd empty visible
  next =>
    rw [read]
    dsimp only
    rw [String.ofList_toList]
    cases entity.column? name <;> rfl

theorem column_of_choose {key : SortKey entity} {directive : Option String}
    (chosen : choose usual directive = .ok key) : key.column ∈ entity.columns ∨ key = usual := by
  cases directive with
  | none =>
    cases chosen
    exact .inr rfl
  | some directive =>
    rcases blank_or_directs directive with blank | ⟨name, direction, directs⟩
    · rw [choose_of_blank blank] at chosen
      cases chosen
      exact .inr rfl
    · rw [choose_of_directs directs] at chosen
      split at chosen
      next column found =>
        cases chosen
        exact .inl (List.mem_of_find?_eq_some found)
      next => cases chosen

/-- The key is the column and direction that the directive names, or the usual one where there is no
directive. -/
def IsChosen (usual : SortKey entity) (sort : Option String) (key : SortKey entity) : Prop :=
  (∃ directive ∈ sort, ∃ name, Directs directive name key.direction ∧
    (name = key.column.name ∨ name = key.column.camelName)) ∨
  (∀ directive ∈ sort, Blank directive.toList) ∧ key = usual

theorem choose_eq_error_iff {sort : Option String} {failure : SearchFailure} :
    choose usual sort = .error failure ↔ ∃ directive ∈ sort, ∃ name direction,
      Directs directive name direction ∧ ¬entity.Knows name ∧ failure = .unknownSortField name := by
  cases sort with
  | none => exact iff_of_false (fun none => nomatch none) fun found => nomatch found.choose_spec.1
  | some directive =>
    simp only [Option.mem_some, exists_eq_left']
    rcases blank_or_directs directive with blank | ⟨name, direction, directs⟩
    · rw [choose_of_blank blank]
      exact iff_of_false (fun none => nomatch none) fun ⟨_, _, directs, _⟩ =>
        directs.not_blank blank
    · rw [choose_of_directs directs]
      constructor
      · intro failed
        split at failed
        next => cases failed
        next unknown =>
          cases failed
          exact ⟨name, direction, directs, Entity.column?_eq_none.1 unknown, rfl⟩
      · rintro ⟨other, opposite, again, unknown, rfl⟩
        rw [(directs.unique again).1, Entity.column?_eq_none.2 unknown]

theorem choose_eq_ok_iff {resource : Resource} {usual key : SortKey resource.entity}
    {sort : Option String} : choose usual sort = .ok key ↔ IsChosen usual sort key := by
  cases sort with
  | none =>
    rw [choose, Except.ok.injEq, eq_comm]
    constructor
    · exact fun same => .inr ⟨fun directive none => (nomatch none), same⟩
    · rintro (found | found)
      · exact nomatch found.choose_spec.1
      · exact found.2
  | some directive =>
    simp only [IsChosen, Option.mem_some, exists_eq_left', forall_eq']
    rcases blank_or_directs directive with blank | ⟨name, direction, directs⟩
    · rw [choose_of_blank blank, Except.ok.injEq, or_iff_right fun found => ?_, eq_comm]
      · exact ⟨fun same => ⟨blank, same⟩, And.right⟩
      · exact found.choose_spec.1.not_blank blank
    · rw [choose_of_directs directs, or_iff_left fun found => directs.not_blank found.1]
      constructor
      · intro made
        split at made
        next column found =>
          cases made
          exact ⟨name, directs, Resource.column?_eq_some_iff.1 found⟩
        next => cases made
      · rintro ⟨other, again, named⟩
        obtain ⟨same, toward⟩ := directs.unique again
        rw [same, toward, Resource.column?_eq_some_iff.2 named]

end Sql.SortKey

end PeriodicalSearch
