import PeriodicalSearch.Proofs.Article.Meaning
import PeriodicalSearch.Proofs.Condition.Height
import PeriodicalSearch.Proofs.Query.RoundTrip
import PeriodicalSearch.Proofs.Search.Parts
import PeriodicalSearch.Proofs.Sql.CellText
import PeriodicalSearch.Record.Basic
import PeriodicalSearch.Resource.Settings

/-! The predicates that a search of the articles consists of. They compare columns of the articles
only, and one of them holds on the row of an article if a term or a filter of the search finds the
article. -/

namespace PeriodicalSearch

open Text

namespace Article

def filterFragment (field : String) : FilterValue Date → Predicate
  | .range range => .compare (searchProfile.columnName field) (.within range)
  | .text comparison value =>
    if field = "status" then statusPredicate value
    else .compare (searchProfile.columnName field) (SearchProfile.textLookup comparison value)

def fragments (query : Query) : List Predicate :=
  (query.terms.map fun term => .compare "title" (.contains term)) ++
    ((query.terms.map fun term => .compare "body" (.contains term)) ++
      query.filters.entries.map fun entry => filterFragment entry.1 entry.2)

theorem transformer?_eq (field : String) : searchProfile.transformer? field =
    if field = "status" then some (.function fun status => .ok (statusPredicate status))
    else if field = "published" then some (.column "published_at")
    else if field = "by" then some (.column "author") else none := by
  change List.lookup field [("status", _), ("published", _), ("by", _)] = _
  rw [Filters.lookup_cons_eq_if, Filters.lookup_cons_eq_if, Filters.lookup_cons_eq_if]
  rfl

theorem filterPredicate_eq (field : String) (value : FilterValue Date) :
    searchProfile.filterPredicate field value = .ok (filterFragment field value) := by
  cases value with
  | range range => rfl
  | text comparison value =>
    rw [SearchProfile.filterPredicate, filterFragment, transformer?_eq]
    by_cases status : field = "status"
    · rw [if_pos status, if_pos status]
      rfl
    · rw [if_neg status, if_neg status]
      by_cases published : field = "published"
      · rw [if_pos published]
      · rw [if_neg published]
        by_cases author : field = "by"
        · rw [if_pos author]
        · rw [if_neg author]

theorem termPredicates_eq (terms : List String) : searchProfile.termPredicates terms =
    .ok ((terms.map fun term => .compare "title" (.contains term)) ++
      terms.map fun term => .compare "body" (.contains term)) := by
  change Except.ok (List.flatMap _ ["title", "body"]) = _
  rw [List.flatMap_cons, List.flatMap_singleton]

theorem predicate?_eq (query : Query) :
    searchProfile.predicate? query = .ok (Predicate.union? (fragments query)) := by
  have parts : searchProfile.Parts query
      ((query.terms.map fun term => .compare "title" (.contains term)) ++
        query.terms.map fun term => .compare "body" (.contains term))
      (query.filters.entries.map fun entry => filterFragment entry.1 entry.2) :=
    ⟨termPredicates_eq query.terms, mapM_eq_ok_map fun entry _ => filterPredicate_eq entry.1 entry.2⟩
  rw [parts.predicate?_eq, List.append_assoc, fragments]

abbrev row (article : Article) : Sql.Row Resource.articles.entity := article.cell

theorem column?_title : Resource.articles.entity.column? "title" = some Column.title := by decide

theorem column?_body : Resource.articles.entity.column? "body" = some Column.body := by decide

theorem column?_publishedAt :
    Resource.articles.entity.column? "published_at" = some Column.publishedAt := by decide

/-- The fields that compare text stand for columns with that text. -/
theorem exists_column_of_textField {field : String} (member : field ∈ textFields)
    (other : field ≠ "status") :
    ∃ column, Resource.articles.entity.column? (searchProfile.columnName field) = some column ∧
      ∀ article : Article, article.IsOrdinary →
        (article.row column).text? = (article.filterText? field).map String.toList ∧
        (∀ content ∈ (article.row column).text?, '\x00' ∉ content) ∧
        ∀ id, article.row column ≠ .uuid id := by
  have plain (text : String) (free : '\x00' ∉ text.toList) :
      (∀ content ∈ some text.toList, '\x00' ∉ content) ∧
        ∀ id, Sql.Cell.text text.toList ≠ .uuid id :=
    ⟨fun content shown => Option.some.inj shown ▸ free, fun id other => by cases other⟩
  simp only [textFields, List.mem_cons, List.not_mem_nil, or_false] at member
  rcases member with rfl | rfl | rfl | rfl | rfl | rfl | rfl
  · exact ⟨Column.title, by decide, fun article ordinary => ⟨rfl, plain _ ordinary.title⟩⟩
  · exact ⟨Column.subTitle, by decide, fun article ordinary => ⟨rfl, plain _ ordinary.subTitle⟩⟩
  · exact ⟨Column.author, by decide, fun article ordinary => ⟨rfl, plain _ ordinary.author⟩⟩
  · exact ⟨Column.author, by decide, fun article ordinary => ⟨rfl, plain _ ordinary.author⟩⟩
  · exact ⟨Column.body, by decide, fun article ordinary => ⟨rfl, plain _ ordinary.body⟩⟩
  · refine ⟨Column.issueId, by decide, fun article _ => ?_⟩
    change ((article.issueId.map fun id => Sql.Cell.integer id.toInt).getD .null).text? =
        (article.issueId.map fun id => toString id.toInt).map String.toList ∧
      (∀ content ∈ ((article.issueId.map fun id => Sql.Cell.integer id.toInt).getD .null).text?,
        '\x00' ∉ content) ∧
      ∀ id, (article.issueId.map fun id => Sql.Cell.integer id.toInt).getD .null ≠ .uuid id
    cases article.issueId with
    | none => exact ⟨rfl, fun content none => (by cases none), fun id other => (by cases other)⟩
    | some id =>
      refine ⟨congrArg some (Sql.integerText_eq id.toInt), fun content shown => ?_,
        fun id other => by cases other⟩
      exact Option.some.inj shown ▸ Sql.null_notMem_integerText id.toInt
  · exact absurd rfl other

theorem holdsOn_publishedAt (article : Article) (lookup : Lookup) :
    (Predicate.compare "published_at" lookup).holdsOn article.row =
      lookup.accepts ((article.publishedAt.map Sql.Cell.moment).getD .null) := by
  rw [Predicate.holdsOn_compare column?_publishedAt]
  rfl

theorem holdsOn_isNull (article : Article) (null : Bool) :
    (Predicate.compare "published_at" (.isNull null)).holdsOn article.row = true ↔
      (article.publishedAt = none ↔ null = true) := by
  rw [holdsOn_publishedAt]
  cases article.publishedAt with
  | none => cases null <;> decide
  | some moment =>
    change ((Sql.Cell.moment moment == .null) == null) = true ↔ _
    have apart : (Sql.Cell.moment moment == .null) = false := rfl
    rw [apart]
    cases null <;> simp

theorem holdsOn_statusPredicate (article : Article) (status : String) :
    (statusPredicate status).holdsOn article.row = true ↔ article.HasStatus status := by
  rw [statusPredicate, HasStatus, sameLetters_iff_toLower "draft" (by decide),
    sameLetters_iff_toLower "published" (by decide)]
  generalize String.ofList ((trimBlanks status.toList).map Char.toLower) = name
  by_cases draft : name = "draft"
  · rw [if_pos draft, holdsOn_isNull]
    simp [draft]
  · rw [if_neg draft]
    by_cases published : name = "published"
    · rw [if_pos published, holdsOn_isNull]
      simp [published]
    · rw [if_neg published, Predicate.holdsOn_nothing]
      simp [draft, published]

theorem columnName_of_dayField {field : String} (member : field ∈ dayFields) :
    searchProfile.columnName field = "published_at" := by
  rcases List.mem_cons.1 member with rfl | rest
  · rfl
  · rw [List.mem_singleton.1 rest]
    rfl

theorem holdsOn_filterFragment {article : Article} (ordinary : article.IsOrdinary) {field : String}
    {value : FilterValue Date} (filters : IsFilter field value)
    (years : ∀ day ∈ value.days, day.HasPlainYear) :
    (filterFragment field value).holdsOn article.row = true ↔ article.Satisfies field value := by
  cases value with
  | text comparison value =>
    by_cases status : field = "status"
    · rw [filterFragment, Satisfies, if_pos status, if_pos status]
      exact holdsOn_statusPredicate article value
    · obtain ⟨column, named, shown⟩ := exists_column_of_textField filters.1 status
      obtain ⟨text, free, texted⟩ := shown article ordinary
      rw [filterFragment, Satisfies, if_neg status, if_neg status, Predicate.holdsOn_compare named,
        Lookup.accepts_textLookup comparison texted free filters.2, text]
      simp only [Option.mem_map, exists_exists_and_eq_and]
  | range range =>
    rw [filterFragment, Satisfies, columnName_of_dayField filters, holdsOn_publishedAt]
    cases published : article.publishedAt with
    | none =>
      exact iff_of_false (fun none => nomatch none) (fun found => nomatch found.choose_spec.1)
    | some moment =>
      rw [Option.map_some, Option.getD_some,
        Lookup.accepts_within (ordinary.publishedAt moment published) years]
      simp only [Option.mem_def, Option.some.injEq, exists_eq_left']

theorem holdsOn_term {article : Article} (ordinary : article.IsOrdinary) {term : String}
    (plain : ∀ c ∈ term.toList, IsPlain c) :
    ((Predicate.compare "title" (.contains term)).holdsOn article.row = true ↔
        ContainsLetters article.title.toList term.toList) ∧
      ((Predicate.compare "body" (.contains term)).holdsOn article.row = true ↔
        ContainsLetters article.body.toList term.toList) := by
  rw [Predicate.holdsOn_compare column?_title, Predicate.holdsOn_compare column?_body]
  constructor
  · exact decide_eq_true_iff.trans (Lookup.findsIn_capitals ordinary.title plain)
  · exact decide_eq_true_iff.trans (Lookup.findsIn_capitals ordinary.body plain)

section

variable {query : Query} (plain : IsPlainQuery query) (writable : query.IsWritable)
include plain writable

/-- One of the predicates of a search holds on the row of an article that a term or a filter of the
search finds. -/
theorem holdsOn_fragments {article : Article} (ordinary : article.IsOrdinary) :
    (Predicate.any (fragments query)).holdsOn article.row = true ↔
      (∃ term ∈ query.terms, ContainsLetters article.title.toList term.toList ∨
        ContainsLetters article.body.toList term.toList) ∨
      ∃ entry ∈ query.filters.entries, article.Satisfies entry.1 entry.2 := by
  have terms : ∀ term ∈ query.terms, _ := fun term member =>
    holdsOn_term ordinary (plain.terms term member)
  have filters : ∀ entry ∈ query.filters.entries, _ := fun entry member =>
    holdsOn_filterFragment ordinary (plain.filters entry member) (writable.years entry member)
  rw [Predicate.holdsOn_any, List.any_eq_true]
  simp only [fragments, List.mem_append, List.mem_map, or_and_right, exists_or,
    exists_exists_and_eq_and, and_or_left]
  rw [or_assoc]
  refine or_congr ?_ (or_congr ?_ ?_)
  · exact exists_congr fun term => and_congr_right fun member => (terms term member).1
  · exact exists_congr fun term => and_congr_right fun member => (terms term member).2
  · exact exists_congr fun entry => and_congr_right fun member => filters entry member

end

/-- The predicate compares at most one field, and that is a column of the articles. -/
structure IsColumnar (fragment : Predicate) : Prop where
  leaf : fragment.IsLeaf
  known : ∀ field ∈ fragment.fields, Resource.articles.entity.Knows field

theorem isColumnar_compare {field : String} {column : Column .articles}
    (named : Resource.articles.entity.column? field = some column) (lookup : Lookup) :
    IsColumnar (.compare field lookup) where
  leaf := trivial
  known other member := by
    rw [Predicate.fields_compare, List.mem_singleton] at member
    exact member ▸ Entity.knows_of_column? named

theorem isColumnar_nothing : IsColumnar .nothing where
  leaf := trivial
  known field none := by
    rw [Predicate.fields_nothing] at none
    cases none

theorem isColumnar_statusPredicate (status : String) : IsColumnar (statusPredicate status) := by
  rw [statusPredicate]
  generalize String.ofList ((trimBlanks status.toList).map Char.toLower) = name
  split
  · exact isColumnar_compare column?_publishedAt _
  · split
    · exact isColumnar_compare column?_publishedAt _
    · exact isColumnar_nothing

theorem isColumnar_filterFragment {field : String} {value : FilterValue Date}
    (filters : IsFilter field value) : IsColumnar (filterFragment field value) := by
  cases value with
  | text comparison value =>
    by_cases status : field = "status"
    · rw [filterFragment, if_pos status]
      exact isColumnar_statusPredicate value
    · obtain ⟨column, named, -⟩ := exists_column_of_textField filters.1 status
      rw [filterFragment, if_neg status]
      exact isColumnar_compare named _
  | range range =>
    rw [filterFragment, columnName_of_dayField filters]
    exact isColumnar_compare column?_publishedAt _

theorem isColumnar_fragments {query : Query} (plain : IsPlainQuery query) :
    ∀ fragment ∈ fragments query, IsColumnar fragment := by
  intro fragment member
  simp only [fragments, List.mem_append, List.mem_map] at member
  rcases member with ⟨term, -, rfl⟩ | ⟨term, -, rfl⟩ | ⟨entry, found, rfl⟩
  · exact isColumnar_compare column?_title _
  · exact isColumnar_compare column?_body _
  · exact isColumnar_filterFragment (plain.filters entry found)

theorem length_entries_le {query : Query} (plain : IsPlainQuery query) :
    query.filters.entries.length ≤ (textFields ++ dayFields).length := by
  refine Filters.length_entries_le fun entry found => ?_
  obtain ⟨field, value⟩ := entry
  have filters := plain.filters _ found
  cases value with
  | text comparison value => exact List.mem_append_left _ filters.1
  | range range => exact List.mem_append_right _ filters

end Article

end PeriodicalSearch
