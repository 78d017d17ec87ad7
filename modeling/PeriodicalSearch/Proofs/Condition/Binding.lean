import PeriodicalSearch.Proofs.Condition.Leaves
import PeriodicalSearch.Proofs.Search.Directives
import PeriodicalSearch.Proofs.Sql.Queries

/-! Bound values of predicates. What comes from outside, the texts, operands and days of a
predicate, goes into the bound values of its statement and never into the text. The values are bound
in the order of the comparisons that they come from. -/

namespace PeriodicalSearch

open Sql

variable {entity : Entity}

/-- The statement binds the values of the leaves of a predicate in their order. Its fragments are
those of the leaves with words and names around them, and its text is what the fragments write
between their bound values, with one placeholder for each value and no others. -/
structure Sql.Statement.BindsLeaves (statement : Statement) (entity : Entity) (dialect : Dialect)
    (predicate : Predicate) : Prop where
  values : statement.values = predicate.boundValues
  leaf : ∀ leaf ∈ predicate.leaves,
    Fragment.values (leaf.fragments entity dialect) = leaf.leafValues
  enclosed : ∃ fragments, statement = Fragment.statement dialect fragments ∧
    Fragment.Encloses fragments (predicate.leaves.map (Predicate.fragments entity dialect)) ∧
    (Fragment.gaps dialect fragments).length = statement.values.length + 1 ∧
    statement.sql = woven (Fragment.gaps dialect fragments)
      ((List.range statement.values.length).map dialect.placeholder)
  marks : entity.IsFreeOf dialect.mark →
    statement.sql.toList.count dialect.mark = statement.values.length

theorem Sql.Statement.BindsLeaves.of_encloses {predicate : Predicate} {dialect : Dialect}
    (known : ∀ field ∈ predicate.fields, entity.Knows field) {fragments : List Fragment}
    (encloses : Fragment.Encloses fragments
      (predicate.leaves.map (Predicate.fragments entity dialect)))
    (free : entity.IsFreeOf dialect.mark → Fragment.AreFreeOf dialect.mark fragments) :
    (Fragment.statement dialect fragments).BindsLeaves entity dialect predicate := by
  have leaf : ∀ leaf ∈ predicate.leaves,
      Fragment.values (leaf.fragments entity dialect) = leaf.leafValues :=
    fun leaf member => Predicate.values_leaf known member dialect
  constructor
  case values =>
    calc
      Fragment.values fragments = _ := encloses.values_eq
      _ = predicate.boundValues := by
        rw [List.flatMap_map, Predicate.boundValues]
        exact List.flatMap_congr leaf
  case leaf => exact leaf
  case enclosed =>
    refine ⟨fragments, rfl, encloses, Fragment.length_gaps fragments, ?_⟩
    rw [List.range_eq_range']
    exact Fragment.text_eq_woven 0 fragments
  case marks => exact fun unmarked => Fragment.count_mark_text 0 (free unmarked)

namespace ConditionGroup

def statement (group : ConditionGroup entity) (sortKey : Option (SortKey entity))
    (dialect : Dialect) : Statement :=
  (⟨some group.expression, sortKey⟩ : Select entity).statement dialect

theorem bindsLeaves_statement {predicate : Predicate}
    (known : ∀ field ∈ predicate.fields, entity.Knows field) {group : ConditionGroup entity}
    (made : ofPredicate entity predicate = .ok group) (sortKey : Option (SortKey entity))
    (dialect : Dialect) :
    (group.statement sortKey dialect).BindsLeaves entity dialect predicate := by
  rw [statement, Select.statement_eq, expression_of_ofPredicate made]
  exact .of_encloses known (Select.encloses_fragments (predicate.encloses_leaves dialect) sortKey)
    fun free => Select.areFreeOf_fragments free _

/-- Predicates that differ only in the texts, operands and days that they compare with become
statements with the same text, which bind the values of the predicates in the order of their
leaves. Sorting adds a column of the table and a direction to the text and nothing else, whatever
the directive is. -/
theorem statement_keeps_values_apart {one other : Predicate} (same : one.erased = other.erased)
    (known : ∀ field ∈ one.fields, entity.Knows field) :
    ∃ group twin : ConditionGroup entity,
      ofPredicate entity one = .ok group ∧ ofPredicate entity other = .ok twin ∧
      (∀ (dialect : Dialect) (sortKey : Option (SortKey entity)),
        (group.statement sortKey dialect).sql = (twin.statement sortKey dialect).sql ∧
        (group.statement sortKey dialect).BindsLeaves entity dialect one ∧
        (twin.statement sortKey dialect).BindsLeaves entity dialect other) ∧
      ∀ (dialect : Dialect) (usual : SortKey entity) (directive : Option String)
        (key : SortKey entity), SortKey.choose usual directive = .ok key →
        (key.column ∈ entity.columns ∨ key = usual) ∧
        ∀ condition : Option (Expression entity),
          (⟨condition, some key⟩ : Select entity).statement dialect =
            ⟨((⟨condition, none⟩ : Select entity).statement dialect).sql ++
                Select.ordering dialect key,
              ((⟨condition, none⟩ : Select entity).statement dialect).values⟩ := by
  have fields : one.fields = other.fields := by
    rw [← one.fields_erased, same, other.fields_erased]
  have otherKnown : ∀ field ∈ other.fields, entity.Knows field := fields ▸ known
  obtain ⟨group, made, expressed⟩ := exists_ofPredicate known
  obtain ⟨twin, otherMade, otherExpressed⟩ := exists_ofPredicate otherKnown
  refine ⟨group, twin, made, otherMade, fun dialect sortKey => ⟨?_, ?_, ?_⟩, ?_⟩
  · apply Select.sql_congr
    calc
      group.expression.erased = (one.erased.expression entity).erased := by
        rw [expressed, Predicate.erased_expression_erased]
      _ = twin.expression.erased := by rw [same, otherExpressed, Predicate.erased_expression_erased]
  · exact bindsLeaves_statement known made sortKey dialect
  · exact bindsLeaves_statement otherKnown otherMade sortKey dialect
  · intro dialect usual directive key chosen
    exact ⟨SortKey.column_of_choose chosen, fun condition => Select.statement_sorted key⟩

def titleOrAuthor (title : String) (first last : Date) (author : Operand) : Predicate :=
  .any [.compare "title" (.contains title),
    .all [.compare "publishedAt" (.within (.between first last)),
      .compare "author" (.exact author)],
    .any []]

def june : Date := ⟨2020, 6, 1, by decide⟩

def july : Date := ⟨2020, 7, 1, by decide⟩

/-- A title that is written like SQL, and an author written like a placeholder, are bound like any
others. -/
theorem statement_of_title_like_sql :
    ∃ group twin : ConditionGroup Resource.articles.entity,
      ofPredicate Resource.articles.entity
        (titleOrAuthor "' OR 1 = 1 --" june july (.text "$1")) = .ok group ∧
      ofPredicate Resource.articles.entity
        (titleOrAuthor "palace" july july (.integer 1)) = .ok twin ∧
      (group.statement none .postgres).sql = (twin.statement none .postgres).sql ∧
      (group.statement none .postgres).sql.toList.count '$' = 6 ∧
      (group.statement none .postgres).values = [.string "%' OR 1 = 1 --%", .date june, .date july,
        .string "$1", .int 1, .int 0] := by
  have same : (titleOrAuthor "' OR 1 = 1 --" june july (.text "$1")).erased =
      (titleOrAuthor "palace" july july (.integer 1)).erased := rfl
  have known : ∀ field ∈ (titleOrAuthor "' OR 1 = 1 --" june july (.text "$1")).fields,
      Resource.articles.entity.Knows field := by
    change ∀ field ∈ ["title", "publishedAt", "author"], Resource.articles.entity.Knows field
    decide +kernel
  obtain ⟨group, twin, made, otherMade, statements, -⟩ := statement_keeps_values_apart same known
  obtain ⟨sameText, binds, -⟩ := statements .postgres none
  have values : (group.statement none .postgres).values = [.string "%' OR 1 = 1 --%", .date june,
      .date july, .string "$1", .int 1, .int 0] := by
    rw [binds.values]
    have pattern : Lookup.containsPattern "' OR 1 = 1 --" = "%' OR 1 = 1 --%" := by
      decide +kernel
    rw [← pattern]
    rfl
  have marks := binds.marks (Resource.articles.isFreeOf_mark .postgres)
  rw [values] at marks
  exact ⟨group, twin, made, otherMade, sameText, marks, values⟩

end ConditionGroup

end PeriodicalSearch
