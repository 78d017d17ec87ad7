import PeriodicalSearch.Proofs.Calendar.DayOrder
import PeriodicalSearch.Proofs.Condition.Comparisons
import PeriodicalSearch.Proofs.Query.Resolution
import PeriodicalSearch.Proofs.Sql.ToldDays
import PeriodicalSearch.Record.Article

/-! What a search of the articles means, told of the articles and not of their rows, and how the
comparisons of the search see the texts and days of an article. -/

namespace PeriodicalSearch

open Text

def Comparison.Holds (content wanted : List Char) : Comparison → Prop
  | .contains => ContainsLetters content wanted
  | .equals => SameLetters content wanted

instance (content wanted : List Char) (comparison : Comparison) :
    Decidable (comparison.Holds content wanted) := by
  unfold Comparison.Holds
  cases comparison <;> infer_instance

def Range.Includes (day : Date) : Range Date → Prop
  | .between first last => first ≤ day ∧ day ≤ last
  | .upTo last => day ≤ last
  | .since first => first ≤ day

instance (day : Date) (range : Range Date) : Decidable (range.Includes day) := by
  unfold Range.Includes
  cases range <;> infer_instance

namespace Article

def filterText? (article : Article) : String → Option String
  | "title" => some article.title
  | "sub_title" => some article.subTitle
  | "author" => some article.author
  | "by" => some article.author
  | "body" => some article.body
  | "issue_id" => article.issueId.map fun id => toString id.toInt
  | _ => none

/-- The article has the status of this name; blanks around the name do not count. -/
def HasStatus (article : Article) (status : String) : Prop :=
  SameLetters (trimBlanks status.toList) "draft".toList ∧ article.publishedAt = none ∨
    SameLetters (trimBlanks status.toList) "published".toList ∧ article.publishedAt ≠ none

instance (article : Article) (status : String) : Decidable (article.HasStatus status) :=
  inferInstanceAs (Decidable (_ ∨ _))

def Satisfies (article : Article) (field : String) : FilterValue Date → Prop
  | .text comparison value =>
    if field = "status" then article.HasStatus value
    else ∃ content ∈ article.filterText? field, comparison.Holds content.toList value.toList
  | .range range => ∃ moment ∈ article.publishedAt, range.Includes moment.date

instance (article : Article) (field : String) (value : FilterValue Date) :
    Decidable (article.Satisfies field value) := by
  unfold Satisfies
  cases value <;> infer_instance

/-- A search finds the article: the search is empty, or one of its terms stands in title or body, or
one of its filters holds. -/
def Matches (query : Query) (article : Article) : Prop :=
  query.isEmpty = true ∨
    (∃ term ∈ query.terms, ContainsLetters article.title.toList term.toList ∨
      ContainsLetters article.body.toList term.toList) ∨
    ∃ entry ∈ query.filters.entries, article.Satisfies entry.1 entry.2

instance (query : Query) (article : Article) : Decidable (Matches query article) :=
  inferInstanceAs (Decidable (_ ∨ _))

def textFields : List String := ["title", "sub_title", "author", "by", "body", "issue_id", "status"]

def dayFields : List String := ["published", "published_at"]

def IsFilter (field : String) : FilterValue Date → Prop
  | .text _ value => field ∈ textFields ∧ ∀ c ∈ value.toList, IsPlain c
  | .range _ => field ∈ dayFields

structure IsPlainQuery (query : Query) : Prop where
  terms : ∀ term ∈ query.terms, ∀ c ∈ term.toList, IsPlain c
  filters : ∀ entry ∈ query.filters.entries, IsFilter entry.1 entry.2

/-- A row of articles that the database reads as it is: texts without null characters, and a moment
of the years 0 to 9999 that is counted to its own day. -/
structure IsOrdinary (article : Article) : Prop where
  title : '\x00' ∉ article.title.toList
  subTitle : '\x00' ∉ article.subTitle.toList
  author : '\x00' ∉ article.author.toList
  body : '\x00' ∉ article.body.toList
  publishedAt : ∀ moment ∈ article.publishedAt, moment.date.HasPlainYear ∧ moment.KeepsDay

end Article

/-- Characters of ASCII are found where they stand before the database reads the text. -/
theorem Sql.infix_map_readCharacter_iff {part text : List Char} (ascii : ∀ c ∈ part, c.toNat < 0x80) :
    part <:+: text.map readCharacter ↔ part <:+: text := by
  have own {c : Char} (read : (readCharacter c).toNat < 0x80) : readCharacter c = c := by
    rw [readCharacter] at read ⊢
    split at read
    · cases (by decide : ¬ '\uFFFD'.toNat < 0x80) read
    next other => exact if_neg other
  constructor
  · rintro ⟨before, behind, whole⟩
    obtain ⟨first, last, rfl, firsts, -⟩ := List.map_eq_append_iff.1 whole.symm
    obtain ⟨start, middle, rfl, -, same⟩ := List.map_eq_append_iff.1 firsts
    have kept : middle.map readCharacter = middle :=
      (List.map_congr_left fun c member =>
        own (ascii _ (same ▸ List.mem_map_of_mem member))).trans (List.map_id' middle)
    exact ⟨start, last, by rw [← same, kept]⟩
  · intro contained
    have kept : part.map readCharacter = part :=
      (List.map_congr_left fun c member => readCharacter_of_ascii (ascii c member)).trans
        (List.map_id' part)
    exact kept ▸ contained.map readCharacter

/-- The texts of the days of a range are those of the days that it includes. -/
theorem Range.admits_text_iff {day : Date} {range : Range Date} (plain : day.HasPlainYear)
    (years : ∀ bound ∈ range.days, bound.HasPlainYear) :
    range.admits day.text = true ↔ range.Includes day := by
  have since {first : Date} (year : first.HasPlainYear) :
      (compare day.text first.text != .lt) = true ↔ first ≤ day := by
    rw [bne_iff_ne, Date.compare_text_ne_lt plain year]
  have upTo {last : Date} (year : last.HasPlainYear) :
      (compare day.text last.text != .gt) = true ↔ day ≤ last := by
    rw [bne_iff_ne, Date.compare_text_ne_gt plain year]
  cases range with
  | between first last =>
    rw [admits, Bool.and_eq_true, since (years first List.mem_cons_self),
      upTo (years last (List.mem_cons_of_mem _ List.mem_cons_self))]
    rfl
  | upTo last => exact upTo (years last List.mem_cons_self)
  | since first => exact since (years first List.mem_cons_self)

namespace Lookup

theorem findsIn_capitals {content wanted : List Char} (free : '\x00' ∉ content)
    (plain : ∀ c ∈ wanted, IsPlain c) :
    FindsIn (Sql.readText content) (capitals wanted) ↔ ContainsLetters content wanted := by
  have ascii : ∀ c ∈ wanted.map Char.toUpper, c.toNat < 0x80 :=
    List.forall_mem_map.2 fun c member =>
      forall_ascii (fun c => c.toUpper.toNat < 0x80) (by decide) c (plain c member).1
  have part : (wanted.map Char.toUpper).map Sql.readCharacter = wanted.map Char.toUpper :=
    (List.map_congr_left fun c member => Sql.readCharacter_of_ascii (ascii c member)).trans
      (List.map_id' _)
  rw [findsIn_capitals_iff fun null => (plain _ null).2 rfl, capitals_of_plain plain, part,
    Sql.readText, Sql.visible_map_toUpper, Sql.visible_of_free free,
    Sql.infix_map_readCharacter_iff ascii, ← containsLetters_iff]

/-- Texts are compared letter by letter, and a null is not compared at all. -/
theorem accepts_textLookup {cell : Sql.Cell} {value : String} (comparison : Comparison)
    (texted : ∀ id, cell ≠ .uuid id) (free : ∀ content ∈ cell.text?, '\x00' ∉ content)
    (plain : ∀ c ∈ value.toList, IsPlain c) :
    (SearchProfile.textLookup comparison value).accepts cell = true ↔
      ∃ content ∈ cell.text?, comparison.Holds content value.toList := by
  cases comparison with
  | contains =>
    rw [SearchProfile.textLookup, accepts_contains_of_text texted, Option.any_eq_true]
    refine exists_congr fun content => and_congr_right fun shown => ?_
    rw [decide_eq_true_iff, findsIn_capitals (free content shown) plain]
    rfl
  | equals =>
    rw [SearchProfile.textLookup, accepts_equals_of_text texted, Option.any_eq_true]
    refine exists_congr fun content => and_congr_right fun _ => ?_
    rw [beq_iff_eq, capitals_of_plain plain, ← sameLetters_iff]
    rfl

theorem accepts_within {moment : Timestamp} {range : Range Date}
    (told : moment.date.HasPlainYear ∧ moment.KeepsDay)
    (years : ∀ day ∈ range.days, day.HasPlainYear) :
    (within range).accepts (.moment moment) = true ↔ range.Includes moment.date := by
  rw [accepts, (Sql.Cell.day?_moment_iff told.1).2 told.2, Option.any_some,
    Range.admits_text_iff told.1 years]

end Lookup

end PeriodicalSearch
