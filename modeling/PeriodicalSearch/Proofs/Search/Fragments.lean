import PeriodicalSearch.Proofs.FirstFailure
import PeriodicalSearch.Proofs.Predicate.Truth
import PeriodicalSearch.Proofs.Query.RoundTrip
import PeriodicalSearch.Search.Filter

/-! What a profile makes of a query, item by item. A query restricts a search if one of its items
yields a predicate, and then matches what the predicate of one of its items matches; which items
these are counts, and not their order. -/

namespace PeriodicalSearch

theorem Query.mem_items_term {query : Query} {text : String} :
    .term text ∈ query.items ↔ text ∈ query.terms := by
  rw [items, List.mem_append, or_iff_left, List.mem_map_of_injective fun _ _ => Item.term.inj]
  intro found
  obtain ⟨entry, -, same⟩ := List.mem_map.1 found
  cases same

theorem Query.mem_items_filter {query : Query} {field : String} {value : FilterValue Date} :
    .filter field value ∈ query.items ↔ query.filters.get? field = some value := by
  rw [items, List.mem_append, or_iff_right, ← Filters.mem_entries_iff]
  · constructor
    · intro found
      obtain ⟨entry, member, same⟩ := List.mem_map.1 found
      cases same
      exact member
    · exact List.mem_map_of_mem (f := Item.ofSetting)
  · intro found
    obtain ⟨text, -, same⟩ := List.mem_map.1 found
    cases same

namespace SearchProfile

variable (profile : SearchProfile)

def itemPredicates : Query.Item Date → Except SearchFailure (List Predicate)
  | .term text => profile.termPredicates [text]
  | .filter field value => (profile.filterPredicate field value).map fun predicate => [predicate]

def itemFailure? (item : Query.Item Date) : Option SearchFailure :=
  failure? (profile.itemPredicates item)

def Yields (item : Query.Item Date) (fragment : Predicate) : Prop :=
  ∃ made, profile.itemPredicates item = .ok made ∧ fragment ∈ made

variable {profile}

section

variable {transformer : Transformer} (transformed : profile.termTransformer = some transformer)
include transformed

theorem itemPredicates_term_of_transformer (text : String) :
    profile.itemPredicates (.term text) =
      (transformTerm transformer text).map fun predicate => [predicate] := by
  rw [itemPredicates, termPredicates, transformed]
  change [text].mapM (transformTerm transformer) = _
  rw [List.mapM_cons, List.mapM_nil]
  cases transformTerm transformer text <;> rfl

end

theorem yields_iff_of_single {item : Query.Item Date} {fragment : Predicate}
    {single : Except SearchFailure Predicate}
    (made : profile.itemPredicates item = single.map fun predicate => [predicate]) :
    profile.Yields item fragment ↔ single = .ok fragment := by
  rw [Yields, made]
  cases single with
  | error failure =>
    exact iff_of_false (fun found => nomatch found.choose_spec.1) (fun none => nomatch none)
  | ok predicate =>
    constructor
    · intro found
      obtain ⟨made, same, member⟩ := found
      cases same
      rw [List.mem_singleton.1 member]
    · intro same
      cases same
      exact ⟨_, rfl, List.mem_cons_self⟩

theorem itemFailure?_of_single {item : Query.Item Date} {single : Except SearchFailure Predicate}
    (made : profile.itemPredicates item = single.map fun predicate => [predicate]) :
    profile.itemFailure? item = failure? single := by
  rw [itemFailure?, made]
  cases single <;> rfl

/-- Only transformers fail. -/
theorem itemFailure?_eq_transformer {item : Query.Item Date} {failure : SearchFailure}
    (failed : profile.itemFailure? item = some failure) :
    ∃ reason, failure = .transformer reason := by
  have applied (transform : String → Except String Predicate) (text : String)
      (failed : failure? ((transform text).mapError SearchFailure.transformer) = some failure) :
      ∃ reason, failure = .transformer reason := by
    cases made : transform text with
    | ok predicate =>
      rw [made] at failed
      cases failed
    | error reason =>
      rw [made] at failed
      exact ⟨reason, (Option.some.inj failed).symm⟩
  cases item with
  | term text =>
    cases transformed : profile.termTransformer with
    | none =>
      rw [itemFailure?, itemPredicates, termPredicates, transformed] at failed
      cases failed
    | some transformer =>
      rw [itemFailure?_of_single (itemPredicates_term_of_transformer transformed text)] at failed
      cases transformer with
      | column name => cases failed
      | function transform => exact applied transform text failed
  | filter field value =>
    rw [itemFailure?_of_single rfl] at failed
    cases value with
    | range range => cases failed
    | text comparison value =>
      rw [filterPredicate] at failed
      split at failed
      · exact applied _ value failed
      · cases failed

theorem reportsFirst_termPredicates (terms : List String) :
    ReportsFirst profile.itemFailure? (terms.map .term) (profile.termPredicates terms)
      fun made => ∀ fragment, fragment ∈ made ↔
        ∃ term ∈ terms, profile.Yields (.term term) fragment := by
  cases transformed : profile.termTransformer with
  | some transformer =>
    have single := itemPredicates_term_of_transformer transformed
    rw [termPredicates, transformed]
    refine (ReportsFirst.mapM terms fun term => itemFailure?_of_single (single term)).mono ?_
    intro made same fragment
    rw [ReportsFirst.mem_iff_of_map_eq same]
    refine exists_congr fun term => and_congr_right fun _ => ?_
    exact (yields_iff_of_single (single term)).symm
  | none =>
    -- The predicates stand field by field and not term by term, so only membership is compared.
    have every : ∀ text, profile.itemPredicates (.term text) =
        .ok (profile.fields.map fun field => .compare field (.contains text)) := fun text => by
      rw [itemPredicates, termPredicates, transformed]
      exact congrArg Except.ok List.map_eq_flatMap.symm
    rw [termPredicates, transformed]
    constructor
    · intro _
      refine ⟨_, rfl, fun fragment => ?_⟩
      simp only [Yields, every, List.mem_flatMap, List.mem_map]
      constructor
      · rintro ⟨field, known, term, member, rfl⟩
        exact ⟨term, member, _, rfl, List.mem_map.2 ⟨field, known, rfl⟩⟩
      · rintro ⟨term, member, made, same, found⟩
        cases same
        obtain ⟨field, known, rfl⟩ := List.mem_map.1 found
        exact ⟨field, known, term, member, rfl⟩
    · intro failure found
      obtain ⟨item, member, failed⟩ := List.exists_of_findSome?_eq_some found
      obtain ⟨term, -, rfl⟩ := List.mem_map.1 member
      rw [itemFailure?, every] at failed
      cases failed

theorem reportsFirst_filterPredicates (entries : List (String × FilterValue Date)) :
    ReportsFirst profile.itemFailure? (entries.map .ofSetting)
      (entries.mapM fun entry => profile.filterPredicate entry.1 entry.2)
      fun made => ∀ fragment, fragment ∈ made ↔
        ∃ entry ∈ entries, profile.Yields (.ofSetting entry) fragment := by
  refine (ReportsFirst.mapM entries fun entry => itemFailure?_of_single rfl).mono ?_
  intro made same fragment
  rw [ReportsFirst.mem_iff_of_map_eq same]
  exact exists_congr fun entry => and_congr_right fun _ => (yields_iff_of_single rfl).symm

/-- What is found is the union of fragments: nothing where there are none, and otherwise it holds
where one of them does. -/
structure IsUnion (fragment? : Predicate → Prop) (found : Option Predicate) : Prop where
  restricts : found = none ↔ ∀ fragment, ¬fragment? fragment
  holds : ∀ truth, found.any (Predicate.holds truth) = true ↔
    ∃ fragment, fragment? fragment ∧ fragment.holds truth = true

def YieldedBy (profile : SearchProfile) (items : List (Query.Item Date)) (fragment : Predicate) :
    Prop :=
  ∃ item ∈ items, profile.Yields item fragment

theorem isUnion_any {fragment? : Predicate → Prop} {first : Predicate} {others : List Predicate}
    (same : ∀ fragment, fragment ∈ first :: others ↔ fragment? fragment) :
    IsUnion fragment? (some (.any (first :: others))) where
  restricts := by
    refine iff_of_false (fun none => nomatch none) fun none => ?_
    exact none first ((same first).1 List.mem_cons_self)
  holds truth := by
    rw [Option.any_some, Predicate.holds_any, List.any_eq_true]
    exact exists_congr fun fragment => and_congr_left fun _ => same fragment

theorem isUnion_none {fragment? : Predicate → Prop}
    (same : ∀ fragment, fragment ∈ [] ↔ fragment? fragment) : IsUnion fragment? none where
  restricts := iff_of_true rfl fun fragment yielded => List.not_mem_nil ((same fragment).2 yielded)
  holds truth := by
    refine iff_of_false (fun none => nomatch none) fun found => ?_
    obtain ⟨fragment, yielded, -⟩ := found
    exact List.not_mem_nil ((same fragment).2 yielded)

/-- The predicate of a query is the union of those of its items, and the first item that fails is
reported. -/
theorem reportsFirst_predicate? (query : Query) :
    ReportsFirst profile.itemFailure? query.items (profile.predicate? query)
      (IsUnion (profile.YieldedBy query.items)) := by
  have parted : ∀ fragment, profile.YieldedBy query.items fragment ↔
      (∃ term ∈ query.terms, profile.Yields (.term term) fragment) ∨
        ∃ entry ∈ query.filters.entries, profile.Yields (.ofSetting entry) fragment := by
    intro fragment
    simp only [YieldedBy, Query.items, List.mem_append, List.mem_map, or_and_right, exists_or,
      exists_exists_and_eq_and]
  generalize profile.YieldedBy query.items = fragment? at parted ⊢
  rw [predicate?, Query.items, ← List.append_nil (List.map _ query.filters.entries)]
  refine (reportsFirst_termPredicates query.terms).bind fun terms ofTerms => ?_
  refine (reportsFirst_filterPredicates query.filters.entries).bind fun filters ofFilters => ?_
  have whole : ∀ fragment, fragment ∈ terms ++ filters ↔ fragment? fragment := fun fragment => by
    rw [List.mem_append, ofTerms, ofFilters, parted]
  cases fragments : terms ++ filters with
  | nil => exact .ok (isUnion_none (fragments ▸ whole))
  | cons first others => exact .ok (isUnion_any (fragments ▸ whole))

theorem searchPredicate?_of_parse {search : String} {query : Query}
    (accepted : Query.parse search = .ok query) :
    profile.searchPredicate? search = profile.predicate? query := by
  rw [searchPredicate?, accepted]

end SearchProfile

end PeriodicalSearch
