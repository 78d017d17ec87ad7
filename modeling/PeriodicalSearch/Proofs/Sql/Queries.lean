import PeriodicalSearch.Proofs.Sql.Erasure
import PeriodicalSearch.Proofs.Sql.Marks

/-! Statements of queries. The fragments of the condition stand between others that bind nothing,
and an ordering only adds to the end of the text. -/

namespace PeriodicalSearch.Sql.Select

variable {entity : Entity} {condition : Option (Expression entity)} {dialect : Dialect}

def orderFragments (key : SortKey entity) : List Fragment :=
  .words " ORDER BY " :: (columnFragments key.column ++ [.words (" " ++ key.direction.word)])

def fragments (select : Select entity) (dialect : Dialect) : List Fragment :=
  selectFragments entity ++
    (match select.condition with
      | some condition => .words " WHERE " :: condition.fragments dialect
      | none => []) ++
    match select.sortKey with
      | some key => orderFragments key
      | none => []

theorem statement_eq (select : Select entity) :
    select.statement dialect = Fragment.statement dialect (select.fragments dialect) := rfl

def ordering (dialect : Dialect) (key : SortKey entity) : String :=
  " ORDER BY " ++ dialect.quote entity.name ++ "." ++ dialect.quote key.column.name ++ " " ++
    key.direction.word

theorem statement_sorted (key : SortKey entity) :
    (⟨condition, some key⟩ : Select entity).statement dialect =
      ⟨((⟨condition, none⟩ : Select entity).statement dialect).sql ++ ordering dialect key,
        ((⟨condition, none⟩ : Select entity).statement dialect).values⟩ := by
  have whole : fragments ⟨condition, some key⟩ dialect =
      fragments ⟨condition, none⟩ dialect ++ orderFragments key := by
    simp only [fragments, List.append_nil]
  rw [statement_eq, statement_eq, whole, Fragment.statement, Fragment.statement,
    Statement.mk.injEq]
  constructor
  · rw [Fragment.text_append]
    simp only [orderFragments, columnFragments, Fragment.text, ordering, List.cons_append,
      List.nil_append, String.append_assoc, String.append_empty]
  · exact (Fragment.values_append _ _).trans (List.append_nil _)

theorem encloses_fragments {condition : Expression entity} {parts : List (List Fragment)}
    (encloses : Fragment.Encloses (condition.fragments dialect) parts)
    (sortKey : Option (SortKey entity)) :
    Fragment.Encloses (fragments ⟨some condition, sortKey⟩ dialect) parts := by
  have start : Fragment.Encloses (selectFragments entity) [] :=
    .of_values_eq_nil values_selectFragments
  have order : ∀ key : SortKey entity, Fragment.Encloses (orderFragments key) [] := fun key =>
    .of_values_eq_nil rfl
  have unsorted := start.append (encloses.words " WHERE ")
  cases sortKey with
  | none => simpa only [fragments, List.append_nil, List.nil_append] using unsorted
  | some key =>
    simpa only [fragments, List.append_nil, List.nil_append] using unsorted.append (order key)

theorem areFreeOf_fragments (free : entity.IsFreeOf dialect.mark) (select : Select entity) :
    Fragment.AreFreeOf dialect.mark (select.fragments dialect) := by
  obtain ⟨condition, sortKey⟩ := select
  refine ((areFreeOf_selectFragments free).append ?_).append ?_
  · cases condition with
    | none => exact Fragment.areFreeOf_nil
    | some condition =>
      exact (Fragment.areFreeOf_words (by decide)).append (condition.areFreeOf_fragments free)
  · cases sortKey with
    | none => exact Fragment.areFreeOf_nil
    | some key =>
      have word : '$' ∉ (" " ++ key.direction.word).toList ∧
          '?' ∉ (" " ++ key.direction.word).toList := by cases key.direction <;> decide
      exact (Fragment.areFreeOf_words (by decide)).append
        ((areFreeOf_columnFragments free key.column).append (Fragment.areFreeOf_words word))

/-- Queries whose conditions differ in bound values only have the same text. -/
theorem sql_congr {condition other : Expression entity} (same : condition.erased = other.erased)
    (sortKey : Option (SortKey entity)) :
    ((⟨some condition, sortKey⟩ : Select entity).statement dialect).sql =
      ((⟨some other, sortKey⟩ : Select entity).statement dialect).sql := by
  apply Fragment.text_congr
  simp only [List.map_append, List.map_cons, ← Expression.fragments_erased, same]

end PeriodicalSearch.Sql.Select
