import PeriodicalSearch.Proofs.Article.Meaning
import PeriodicalSearch.Proofs.Store.Selection

/-! Ranges of days in the database. The database compares the text of the day that a record has in a
column with the texts of the ends of a range. Of a moment only the day counts, and the texts of days
are ordered as the days are; so the records that a range selects are those whose days lie in it. -/

namespace PeriodicalSearch

/-- A range whose ends stand in the wrong order admits no text. -/
theorem Range.le_of_admits {first last : Date} (plain : first.HasPlainYear)
    (plainLast : last.HasPlainYear) {text : List Char}
    (admitted : (between first last).admits text = true) : first ≤ last := by
  rw [admits, Bool.and_eq_true, bne_iff_ne, bne_iff_ne] at admitted
  have before : (compare first.text text).isLE = true :=
    Std.OrientedCmp.isLE_of_isGE (Ordering.isGE_iff_ne_lt.2 admitted.1)
  have behind : (compare text last.text).isLE = true := Ordering.isLE_iff_ne_gt.2 admitted.2
  rw [← Date.compare_text_ne_gt plain plainLast]
  exact Ordering.isLE_iff_ne_gt.1 (Std.TransCmp.isLE_trans before behind)

namespace Record

variable {resource : Resource}

def dayIn : {resource : Resource} → Record resource → Column resource → Option Date
  | .issues, issue, .publishDate => Issue.publishDate issue
  | .articles, article, .publishedAt => (Article.publishedAt article).map Timestamp.date
  | _, _, _ => none

/-- The database has the day of the record as ISO text, and no day where the record has none. -/
def TellsDayIn (record : Record resource) (column : Column resource) : Prop :=
  (record.cell column).day? = (record.dayIn column).map Date.text

theorem tellsDayIn_publishDate {issue : Record .issues}
    (years : ∀ day ∈ issue.dayIn .publishDate, day.HasPlainYear) :
    issue.TellsDayIn .publishDate := by
  change ((Issue.publishDate issue).map Sql.Cell.date |>.getD .null).day? =
    (Issue.publishDate issue).map Date.text
  cases published : Issue.publishDate issue with
  | none => rfl
  | some day => exact Sql.Cell.day?_date (years day published)

/-- The database does not tell the day of a moment in a sixty-first second, and gives the last half
of a millisecond of a day that is the 29th of its month or later to the day after. -/
theorem tellsDayIn_publishedAt_iff {article : Record .articles}
    (years : ∀ day ∈ article.dayIn .publishedAt, day.HasPlainYear) :
    article.TellsDayIn .publishedAt ↔ ∀ moment ∈ Article.publishedAt article, moment.KeepsDay := by
  change ((Article.publishedAt article).map Sql.Cell.moment |>.getD .null).day? =
    ((Article.publishedAt article).map Timestamp.date).map Date.text ↔ _
  change ∀ day ∈ (Article.publishedAt article).map Timestamp.date, _ at years
  cases published : Article.publishedAt article with
  | none => exact iff_of_true rfl fun moment none => by cases none
  | some moment =>
    rw [published] at years
    have told := Sql.Cell.day?_moment_iff (years moment.date rfl)
    simpa using told

end Record

namespace Store

variable {resource : Resource} {store : Store} {records : List (Record resource)}

/-- A comparison with a range selects a record exactly if the day that the record has in the column,
where the database tells it, lies in the range. It never selects a record that has none, and with a
range that ends before it begins it selects no record at all. -/
theorem selects_within_iff_includes (table : store.table resource = some records)
    {record : Record resource} (member : record ∈ records) {field : String}
    {column : Column resource} (named : resource.entity.column? field = some column)
    {range : Range Date} (years : ∀ bound ∈ range.days, bound.HasPlainYear) :
    ((∀ day ∈ record.dayIn column, day.HasPlainYear) → record.TellsDayIn column →
      (store.Selects (.compare field (.within range)) record ↔
        ∃ day ∈ record.dayIn column, range.Includes day)) ∧
    (record.cell column = .null → ¬ store.Selects (.compare field (.within range)) record) ∧
    (∀ first last, range = .between first last → ¬ first ≤ last →
      ¬ store.Selects (.compare field (.within range)) record) := by
  have taken : (Lookup.within range).IsTaken := trivial
  rw [selects_compare_iff table member named, and_iff_right taken, Lookup.accepts,
    Option.any_eq_true]
  refine ⟨fun plain tells => ?_, fun null => ?_, ?_⟩
  · rw [tells]
    cases own : record.dayIn column with
    | none => simp
    | some day =>
      simp only [Option.map_some, Option.some.injEq, exists_eq_left', Option.mem_def]
      exact Range.admits_text_iff (plain day own) years
  · rw [null]
    rintro ⟨text, none, -⟩
    cases none
  · rintro first last rfl unordered ⟨text, -, admitted⟩
    exact unordered (Range.le_of_admits (years first List.mem_cons_self)
      (years last (List.mem_cons_of_mem _ List.mem_cons_self)) admitted)

def midsummer : Record .articles :=
  (⟨⟨1⟩, "Midsummer", "", "Ann", "", none,
    some ⟨⟨2020, 6, 30, by decide⟩, 1439, 59, 999000000, by decide⟩⟩ : Article)

def july : Record .issues := (⟨1, 3, 2, Date.ofYmd? 2020 7 1⟩ : Issue)

def summer : Store := ⟨some [july], some [midsummer], none⟩

/-- The last millisecond of the last day belongs to the range, and the day after does not. -/
theorem selects_last_moment_of_june :
    summer.Selects (.compare "publishedAt" (.within (.upTo ⟨2020, 6, 30, by decide⟩))) midsummer ∧
      ¬ summer.Selects (.compare "publish_date" (.within (.upTo ⟨2020, 6, 30, by decide⟩)))
        july := by
  have years : ∀ bound ∈ (Range.upTo (⟨2020, 6, 30, by decide⟩ : Date)).days,
      bound.HasPlainYear := by decide
  constructor
  · have table : summer.table .articles = some [midsummer] := rfl
    have named : Resource.articles.entity.column? "publishedAt" = some Column.publishedAt := by
      decide
    have plain : ∀ day ∈ midsummer.dayIn .publishedAt, day.HasPlainYear := by decide
    have tells : midsummer.TellsDayIn .publishedAt :=
      (Record.tellsDayIn_publishedAt_iff plain).2 (by decide)
    obtain ⟨selects, -, -⟩ := selects_within_iff_includes table List.mem_cons_self named years
    exact (selects plain tells).2 ⟨_, rfl, by decide⟩
  · have table : summer.table .issues = some [july] := rfl
    have named : Resource.issues.entity.column? "publish_date" = some Column.publishDate := by
      decide
    have plain : ∀ day ∈ july.dayIn .publishDate, day.HasPlainYear := by decide
    obtain ⟨selects, -, -⟩ := selects_within_iff_includes table List.mem_cons_self named years
    rw [selects plain (Record.tellsDayIn_publishDate plain)]
    rintro ⟨day, own, within⟩
    cases own
    exact absurd within (by decide)

end Store

end PeriodicalSearch
