import PeriodicalSearch.Proofs.Api.Answers
import PeriodicalSearch.Proofs.Search.Height
import PeriodicalSearch.Proofs.Store.Selection

/-! Searches of the articles from the request to the response. A search that the database can
evaluate lists exactly the articles that it finds, page by page. The condition of a search grows by
one level with every term in title and body and with every filter, and the database evaluates no
condition of more than `Sql.maxHeight` levels. -/

namespace PeriodicalSearch

namespace Article

/-- The levels of the condition of a search that is not empty. -/
def searchHeight (query : Query) : Nat :=
  2 * query.terms.length + query.filters.entries.length + 4

variable {query : Query}

theorem isEmpty_fragments : (fragments query).isEmpty = query.isEmpty := by
  rw [fragments, Query.isEmpty, Bool.eq_iff_iff]
  simp

variable (plain : IsPlainQuery query)
include plain

/-- The condition of a search keeps the articles that the search finds, and is too high for the
database exactly if the search is. -/
theorem exists_condition {search : String} (accepted : Query.parse search = .ok query) :
    ∃ condition, Resource.articles.searchProfile.filter Resource.articles (some search) =
        .ok condition ∧
      (∀ article : Article, article.IsOrdinary →
        Store.isSelected (condition.map ConditionGroup.expression) article =
          decide (Matches query article)) ∧
      ((∀ group ∈ condition, group.expression.height ≤ Sql.maxHeight) ↔
        searchHeight query ≤ Sql.maxHeight) := by
  obtain ⟨found, condition, compiled, conditioned, conditions⟩ :=
    SearchProfile.exists_condition? (Resource.neverFails .articles) Resource.articles.entity accepted
  have whole : found = Predicate.union? (fragments query) :=
    Except.ok.inj (compiled.symm.trans (predicate?_eq query))
  have known : ∀ predicate ∈ found, ∀ field ∈ predicate.fields,
      Resource.articles.entity.Knows field :=
    whole ▸ Predicate.forall_fields_union? fun fragment member =>
      (isColumnar_fragments plain fragment member).known
  refine ⟨condition, conditioned, fun article ordinary => ?_, ?_⟩
  · have meaning := holdsOn_fragments plain (Query.isWritable_of_parse accepted) ordinary
    rw [Predicate.holdsOn_any] at meaning
    rw [Store.isSelected_of_conditions conditions known, whole, Predicate.all_holdsOn_union?,
      isEmpty_fragments, Bool.eq_iff_iff, Bool.or_eq_true, decide_eq_true_iff, Matches]
    exact or_congr_right meaning
  · have fields : (textFields ++ dayFields).length = 9 := rfl
    have few := length_entries_le plain
    have limit : Sql.maxHeight = 1000 := rfl
    exact Resource.height_le_iff rfl rfl column?_title (by omega) compiled known conditions

end Article

namespace Service

/-- Every request for the articles that a search finds is answered with their number and the page
that it asks for. The pages of one size are the list of these articles, and the pages behind the
last one are empty. Only where the condition of the search has more levels than the database
evaluates does every such request fail. -/
theorem get_of_article_search {store : Store} {articles : List Article} {search : String}
    {query : Query} {sort : Option String} {key : Sql.SortKey Resource.articles}
    (table : store.articles = some articles) (few : articles.length < 2 ^ 63)
    (ordinary : ∀ article ∈ articles, article.IsOrdinary)
    (accepted : Query.parse search = .ok query) (plain : Article.IsPlainQuery query)
    (sorted : Sql.SortKey.choose (Resource.usualSort .articles) sort = .ok key) :
    (Article.searchHeight query ≤ Sql.maxHeight →
      ∃ found : List (Record .articles),
        found.Perm (articles.filter fun article => Article.Matches query article) ∧
        (∀ address options, AsksFor address .articles options → options.search = some search →
          options.sort = sort → get store address = shown options found) ∧
        (∀ (options : ListOptions) (count : Nat), count < 2 ^ 64 →
          found.length ≤ count * options.limit →
          ((List.range count).flatMap fun index =>
            (Listing.paginate (options.onPage (UInt64.ofNat (index + 1))) found).records) = found) ∧
        ∀ options : ListOptions, found.length ≤ options.before →
          (Listing.paginate options found).records = []) ∧
    (Sql.maxHeight < Article.searchHeight query →
      ∀ address options, AsksFor address .articles options → options.search = some search →
        options.sort = sort → get store address = failed .database) := by
  have table : store.table .articles = some articles := table
  obtain ⟨condition, conditioned, selected, height⟩ := Article.exists_condition plain accepted
  constructor
  · intro low
    have kept : articles.filter (Store.isSelected (condition.map ConditionGroup.expression)) =
        articles.filter fun article => Article.Matches query article :=
      List.filter_congr fun article member => selected article (ordinary article member)
    obtain ⟨found, perm, answers, pages⟩ :=
      lists_of_condition table conditioned sorted (height.2 low)
    have short : found.length ≤ Text.maxInt64 := by
      rw [perm.length_eq]
      exact Nat.le_trans (List.length_filter_le ..) (Nat.le_pred_of_lt few)
    exact ⟨found, kept ▸ perm, answers, (pages short).1, (pages short).2⟩
  · intro high
    exact fails_of_condition table conditioned sorted fun low =>
      Nat.not_lt.2 (height.1 low) high

def palace : Article := ⟨⟨0⟩, "Malice in the Palace", "", "Ann", "", none, none⟩

theorem isOrdinary_palace : palace.IsOrdinary where
  title := by decide
  subTitle := by decide
  author := by decide
  body := by decide
  publishedAt moment none := nomatch none

def draftsOrZebra : Query :=
  ⟨["zebra"], ⟨[("status", .text .contains "Draft")], List.pairwise_singleton _ _⟩⟩

theorem isPlainQuery_draftsOrZebra : Article.IsPlainQuery draftsOrZebra where
  terms term member := by
    rw [List.mem_singleton.1 member]
    exact Text.isPlain_of_all (by decide)
  filters entry member := by
    rw [List.mem_singleton.1 member]
    exact ⟨by decide, Text.isPlain_of_all (by decide)⟩

/-- The search lists the draft and nothing else. -/
theorem get_of_search_for_drafts :
    ∃ found : List (Record .articles), found.Perm [palace] ∧
      get ⟨some [], some [palace], some []⟩ "/api/v1/articles?search=zebra+status:Draft" =
        shown ⟨some "zebra status:Draft", none, none, none⟩ found := by
  have table : (⟨some [], some [palace], some []⟩ : Store).articles = some [palace] := rfl
  have ordinary : ∀ article ∈ [palace], article.IsOrdinary := fun article member =>
    List.mem_singleton.1 member ▸ isOrdinary_palace
  have accepted : Query.parse "zebra status:Draft" = .ok draftsOrZebra := by cbv
  have sorted : Sql.SortKey.choose (Resource.usualSort .articles) none =
      .ok (Resource.usualSort .articles) := rfl
  have asks : AsksFor "/api/v1/articles?search=zebra+status:Draft" .articles
      ⟨some "zebra status:Draft", none, none, none⟩ :=
    ⟨"search=zebra+status:Draft".toList, by cbv, by cbv⟩
  have kept : ([palace].filter fun article => Article.Matches draftsOrZebra article) =
      [palace] := by
    decide +kernel
  obtain ⟨listed, -⟩ := get_of_article_search table (by decide) ordinary accepted
    isPlainQuery_draftsOrZebra sorted
  obtain ⟨found, perm, response, -, -⟩ := listed (by decide)
  exact ⟨found, kept ▸ perm, response _ _ asks rfl rfl⟩

def manyTerms : Query := ⟨List.replicate 500 "a", Filters.empty⟩

theorem parse_manyTerms : Query.parse manyTerms.text = .ok manyTerms := by
  refine Query.parse_text_of_isWritable ⟨?_, ?_⟩ (by decide +kernel)
  · exact fun entry none => nomatch none
  · exact fun entry none => nomatch none

theorem isPlainQuery_manyTerms : Article.IsPlainQuery manyTerms where
  terms term member := by
    rw [(List.mem_replicate.1 member).2]
    exact Text.isPlain_of_all (by decide)
  filters entry none := nomatch none

/-- The search for five hundred terms is accepted and would find the draft, but fails. -/
theorem listed_of_manyTerms :
    Query.parse manyTerms.text = .ok manyTerms ∧ Article.IsPlainQuery manyTerms ∧
      palace.IsOrdinary ∧ Article.Matches manyTerms palace ∧
      listed ⟨some [], some [palace], some []⟩ .articles ⟨some manyTerms.text, none, none, none⟩ =
        failed .database ∧ (failed .database).status = 500 := by
  have finds : Article.Matches manyTerms palace :=
    .inr (.inl ⟨"a", List.mem_replicate.2 ⟨by decide, rfl⟩, .inl (by decide +kernel)⟩)
  obtain ⟨condition, conditioned, -, height⟩ :=
    Article.exists_condition isPlainQuery_manyTerms parse_manyTerms
  have high : ¬Article.searchHeight manyTerms ≤ Sql.maxHeight := by
    rw [Article.searchHeight, manyTerms, List.length_replicate]
    decide
  refine ⟨parse_manyTerms, isPlainQuery_manyTerms, isOrdinary_palace, finds, ?_, rfl⟩
  have table : (⟨some [], some [palace], some []⟩ : Store).table .articles = some [palace] := rfl
  have sorted : Sql.SortKey.choose (Resource.usualSort .articles) none =
      .ok (Resource.usualSort .articles) := rfl
  exact listed_of_high table conditioned sorted (mt height.1 high)

end Service

end PeriodicalSearch
