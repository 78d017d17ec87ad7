import PeriodicalSearch.Proofs.Article.Fragments
import PeriodicalSearch.Proofs.Search.Parts
import PeriodicalSearch.Proofs.Search.Totality
import PeriodicalSearch.Proofs.Search.Transformers

/-! The height of the condition of a search. Every predicate of its terms and filters adds a level
to a chain, and what one transformer makes of a text is low, whatever the text. So the number of the
predicates bounds the height, and decides where terms are looked up in columns whether the database
can evaluate the condition. -/

namespace PeriodicalSearch

open Sql

variable {entity : Entity}

def Transformer.MakesUpTo (bound : Nat) : Transformer → Prop
  | .column _ => True
  | .function transform => ∀ text predicate, transform text = .ok predicate →
      ∀ entity, (predicate.expression entity).height ≤ bound

theorem Transformer.makesUpTo_ok {bound : Nat} {made : String → Predicate}
    (low : ∀ text entity, ((made text).expression entity).height ≤ bound) :
    (function fun text => .ok (made text)).MakesUpTo bound := by
  intro text predicate same entity
  cases same
  exact low text entity

theorem Transformer.makesUpTo_column {bound : Nat} (name : String) :
    (column name).MakesUpTo bound := trivial

namespace SearchProfile

variable {profile : SearchProfile}

theorem height_transformTerm_le {bound : Nat} (room : Lookup.maxTestHeight ≤ bound)
    {transformer : Transformer} (low : transformer.MakesUpTo bound) {text : String}
    {predicate : Predicate} (made : transformTerm transformer text = .ok predicate) :
    (predicate.expression entity).height ≤ bound := by
  cases transformer with
  | column name =>
    cases made
    exact Nat.le_trans (Predicate.height_expression_le trivial) room
  | function transform =>
    rw [transformTerm] at made
    cases result : transform text with
    | error reason => rw [result] at made; cases made
    | ok other =>
      rw [result] at made
      cases made
      exact low text predicate result entity

theorem height_filterPredicate_le {bound : Nat} (room : Lookup.maxTestHeight ≤ bound)
    (low : profile.Every (Transformer.MakesUpTo bound)) {field : String} {value : FilterValue Date}
    {predicate : Predicate} (made : profile.filterPredicate field value = .ok predicate) :
    (predicate.expression entity).height ≤ bound := by
  have compared : ∀ field lookup,
      ((Predicate.compare field lookup).expression entity).height ≤ bound := fun field lookup =>
    Nat.le_trans (Predicate.height_expression_le trivial) room
  cases value with
  | range range =>
    cases made
    exact compared _ _
  | text comparison value =>
    rw [filterPredicate] at made
    split at made
    next transform transformed =>
      exact height_transformTerm_le room (low.of_transformer? transformed) made
    next =>
      cases made
      exact compared _ _

variable {query : Query} {ofTerms ofFilters : List Predicate} {predicate : Predicate}
  {group : ConditionGroup entity}
  (whole : Predicate.union? (ofTerms ++ ofFilters) = some predicate)
  (made : ConditionGroup.ofPredicate entity predicate = .ok group)
include whole made

theorem expression_of_union? : ofTerms ++ ofFilters ≠ [] ∧ group.expression =
    .joined .any (ofTerms.map (Predicate.expression entity) ++
      ofFilters.map (Predicate.expression entity)) := by
  rw [← List.map_append, ConditionGroup.expression_of_ofPredicate made]
  cases fragments : ofTerms ++ ofFilters with
  | nil =>
    rw [fragments] at whole
    cases whole
  | cons first others =>
    rw [fragments] at whole
    cases whole
    exact ⟨List.cons_ne_nil first others, Predicate.expression_any_cons first others⟩

variable (parts : profile.Parts query ofTerms ofFilters)
include parts

/-- Every predicate of a search is a level of its own. -/
theorem width_le_height : profile.width query ≤ group.expression.height := by
  rw [(expression_of_union? whole made).2, ← parts.length, ← List.map_append,
    ← List.length_map (Predicate.expression entity)]
  exact Expression.length_le_height_joined _

/-- Terms that are looked up in a column are as high as any test, and come first. -/
theorem height_ge_width {field : String} {column : entity.Column}
    (untransformed : profile.termTransformer = none) (first : profile.fields.head? = some field)
    (named : entity.column? field = some column) (terms : query.terms ≠ []) :
    Lookup.maxTestHeight + profile.width query ≤ group.expression.height + 1 := by
  have length := parts.length
  have compiled := parts.terms
  rw [termPredicates, untransformed] at compiled
  cases compiled
  obtain ⟨fields, searched⟩ := List.head?_eq_some_iff.1 first
  obtain ⟨term, others, written⟩ := List.exists_cons_of_ne_nil terms
  rw [searched, written, List.flatMap_cons, List.map_cons, List.cons_append, List.cons_append]
    at whole length
  cases whole
  have bound := ConditionGroup.height_any_ge made rfl named
  rw [List.length_cons] at length
  omega

/-- The predicates of terms may be no higher than `low`, and those of filters, which come behind
them, than `high`. -/
theorem height_le_width {low high : Nat} (room : Lookup.maxTestHeight ≤ low) (more : low ≤ high)
    (terms : ∀ transformer ∈ profile.termTransformer, transformer.MakesUpTo low)
    (filters : profile.Every (Transformer.MakesUpTo high)) :
    group.expression.height ≤
      max (low + profile.width query - 1) (high + query.filters.entries.length) := by
  obtain ⟨nonempty, same⟩ := expression_of_union? whole made
  have lower : ∀ member ∈ ofTerms.map (Predicate.expression entity), member.height ≤ low := by
    refine List.forall_mem_map.2 (parts.forall_terms (fun field _ text _ => ?_) ?_)
    · exact Nat.le_trans (Predicate.height_expression_le trivial) room
    · intro transformer registered text _ predicate made
      exact height_transformTerm_le room (terms transformer registered) made
  have higher : ∀ member ∈ ofFilters.map (Predicate.expression entity), member.height ≤ high :=
    List.forall_mem_map.2 (parts.forall_filters fun entry _ predicate made =>
      height_filterPredicate_le (Nat.le_trans room more) filters made)
  have members : ofTerms.map (Predicate.expression entity) ++
      ofFilters.map (Predicate.expression entity) ≠ [] := by
    rw [← List.map_append]
    exact fun none => nonempty (List.map_eq_nil_iff.1 none)
  have bound : (Expression.joined .any _).height ≤ _ :=
    Expression.height_joined_append_le members lower higher
  rw [← same, ← List.map_append, List.length_map, List.length_map, parts.length,
    parts.length_filters] at bound
  exact bound

end SearchProfile

theorem IssueCode.height_predicate_le (code : IssueCode) :
    (code.predicate.expression entity).height ≤ Lookup.maxTestHeight := by
  rw [predicate]
  split
  next issue _ =>
    have bound : (Expression.joined .all ([_, _].map (Predicate.expression entity))).height ≤ 3 + 1 :=
      Expression.height_joined_le _ _ (List.forall_mem_cons.2
        ⟨Predicate.height_expression_exact_le "volume_num" (.integer code.volume.toInt),
          List.forall_mem_singleton.2
            (Predicate.height_expression_exact_le "issue_num" (.integer issue.toInt))⟩)
    rw [Predicate.expression_all]
    exact Nat.le_trans bound (by decide)
  next => exact Predicate.height_expression_le trivial

theorem Issue.height_codePredicate_le (text : String) (entity : Entity) :
    ((codePredicate text).expression entity).height ≤ Lookup.maxTestHeight := by
  rw [codePredicate]
  split
  next code _ => exact code.height_predicate_le
  next => exact Predicate.height_expression_le trivial

theorem Issue.height_numberPredicate_le (column text : String) (entity : Entity) :
    ((numberPredicate column text).expression entity).height ≤ Lookup.maxTestHeight := by
  rw [numberPredicate]
  split <;> exact Predicate.height_expression_le trivial

theorem Article.height_statusPredicate_le (text : String) (entity : Entity) :
    ((statusPredicate text).expression entity).height ≤ Lookup.maxTestHeight :=
  Predicate.height_expression_le (isColumnar_statusPredicate text).leaf

theorem Role.height_predicate_le (text : String) (entity : Entity) :
    ((predicate text).expression entity).height ≤ Lookup.maxTestHeight + 2 := by
  rw [predicate]
  split
  next minimum _ =>
    have few : minimum.implied.length ≤ 3 := List.length_filter_le ..
    cases roles : minimum.implied with
    | nil => exact Nat.le_trans ConditionGroup.height_never (Nat.le_add_right ..)
    | cons first others =>
      rw [roles, List.length_cons] at few
      have leaves : ∀ predicate ∈ (first :: others).map fun role =>
          Predicate.compare "role" (.equals role.name), predicate.IsLeaf :=
        List.forall_mem_map.2 fun role _ => trivial
      refine Nat.le_trans (Predicate.height_expression_any_le leaves) ?_
      rw [List.length_map]
      omega
  next => exact Nat.le_trans (Predicate.height_expression_le trivial) (Nat.le_add_right ..)

open Transformer in
theorem Resource.makesUpTo (resource : Resource) :
    (∀ transformer ∈ resource.searchProfile.termTransformer,
      transformer.MakesUpTo Lookup.maxTestHeight) ∧
    resource.searchProfile.Every (Transformer.MakesUpTo (Lookup.maxTestHeight + 2)) := by
  constructor
  · intro transformer taken
    cases resource with
    | issues =>
      cases taken
      exact makesUpTo_ok Issue.height_codePredicate_le
    | articles => cases taken
    | users => cases taken
  · refine resource.every_of_makes makesUpTo_column fun made makes =>
      makesUpTo_ok fun text entity => ?_
    -- Only a role, which stands for several, needs the room that is added.
    cases makes with
    | code => exact Nat.le_trans (Issue.height_codePredicate_le text entity) (Nat.le_add_right ..)
    | number column =>
      exact Nat.le_trans (Issue.height_numberPredicate_le column text entity) (Nat.le_add_right ..)
    | status =>
      exact Nat.le_trans (Article.height_statusPredicate_le text entity) (Nat.le_add_right ..)
    | role => exact Role.height_predicate_le text entity

/-- The condition of a search has a level for each predicate of the search, and hardly more. -/
theorem Resource.height_bounds (resource : Resource) {query : Query} {found : Option Predicate}
    {condition : Option (ConditionGroup resource)}
    (compiled : resource.searchProfile.predicate? query = .ok found)
    (conditions : SearchProfile.Conditions resource.entity found condition) :
    ∀ group ∈ condition,
      group.expression.height ≤ max (resource.searchProfile.width query + 4)
        (query.filters.entries.length + 7) ∧
      ((∀ predicate ∈ found, ∀ field ∈ predicate.fields, resource.entity.Knows field) →
        resource.searchProfile.width query ≤ group.expression.height) := by
  have test : Lookup.maxTestHeight = 5 := rfl
  obtain ⟨ofTerms, ofFilters, parts, whole⟩ := SearchProfile.exists_parts compiled
  intro group member
  cases conditions with
  | unrestricted => cases member
  | known made =>
    cases member
    have upper := SearchProfile.height_le_width whole.symm made parts (Nat.le_refl _)
      (Nat.le_add_right _ 2) resource.makesUpTo.1 resource.makesUpTo.2
    exact ⟨by omega, fun _ => SearchProfile.width_le_height whole.symm made parts⟩
  | unknown lacks =>
    cases member
    have low : (ConditionGroup.never : ConditionGroup resource).expression.height ≤ _ :=
      ConditionGroup.height_never
    exact ⟨by omega, fun known => absurd (known _ rfl) lacks⟩

/-- Where terms are looked up in columns, the condition of a search is low enough for the database
exactly if there is room for four levels more than the search has predicates. -/
theorem Resource.height_le_iff {resource : Resource} {query : Query} {found : Option Predicate}
    {condition : Option (ConditionGroup resource)} {field : String} {column : resource.entity.Column}
    (untransformed : resource.searchProfile.termTransformer = none)
    (first : resource.searchProfile.fields.head? = some field)
    (named : resource.entity.column? field = some column)
    (few : query.filters.entries.length + 7 ≤ maxHeight)
    (compiled : resource.searchProfile.predicate? query = .ok found)
    (known : ∀ predicate ∈ found, ∀ name ∈ predicate.fields, resource.entity.Knows name)
    (conditions : SearchProfile.Conditions resource.entity found condition) :
    (∀ group ∈ condition, group.expression.height ≤ maxHeight) ↔
      resource.searchProfile.width query + 4 ≤ maxHeight := by
  have bounds := resource.height_bounds compiled conditions
  obtain ⟨ofTerms, ofFilters, parts, whole⟩ := SearchProfile.exists_parts compiled
  by_cases terms : query.terms = []
  · -- Without terms there are no more levels than filters, and these are few.
    have width : resource.searchProfile.width query = query.filters.entries.length := by
      rw [SearchProfile.width, terms, List.length_nil, Nat.mul_zero, Nat.zero_add]
    refine iff_of_true (fun group member => ?_) (by omega)
    have upper := (bounds group member).1
    omega
  cases conditions with
  | unrestricted =>
    have length := parts.length
    cases all : ofTerms ++ ofFilters with
    | nil =>
      rw [all, List.length_nil] at length
      exact iff_of_true (fun group none => absurd none (Option.not_mem_none group)) (by omega)
    | cons member others =>
      rw [all] at whole
      cases whole
  | unknown lacks => exact absurd (known _ rfl) lacks
  | @known predicate group made =>
    have lower := SearchProfile.height_ge_width whole.symm made parts untransformed first named terms
    have test : Lookup.maxTestHeight = 5 := rfl
    constructor
    · intro low
      have height := low group rfl
      omega
    · intro room other same
      cases same
      have upper := (bounds group rfl).1
      omega

end PeriodicalSearch
