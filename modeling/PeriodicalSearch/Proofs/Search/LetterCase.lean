import PeriodicalSearch.Proofs.Agreement
import PeriodicalSearch.Proofs.Condition.LetterCase
import PeriodicalSearch.Proofs.Search.Totality
import PeriodicalSearch.Proofs.Search.Transformers
import PeriodicalSearch.Proofs.Text.Decimals
import PeriodicalSearch.Proofs.Text.Trimming

/-! The case of ASCII letters in a search. No transformer of the collections sees it, so queries
that differ in it only become the same condition, and the same statement in every dialect. -/

namespace PeriodicalSearch

open Predicate (Alike)

/-- The values are the same range, or are compared in the same way and are the same text but for the
case of ASCII letters. -/
inductive FilterValue.SameLetters : FilterValue Date → FilterValue Date → Prop
  | text (comparison : Comparison) {one other : String}
      (same : Text.SameLetters one.toList other.toList) :
      SameLetters (.text comparison one) (.text comparison other)
  | range (range : Range Date) : SameLetters (.range range) (.range range)

structure Query.SameLetters (one other : Query) : Prop where
  terms : List.Forall₂ (fun term term' => Text.SameLetters term.toList term'.toList)
    one.terms other.terms
  filters : List.Forall₂ (fun entry entry' => entry.1 = entry'.1 ∧ entry.2.SameLetters entry'.2)
    one.filters.entries other.filters.entries

/-- The transformer makes the same of texts that differ in the case of ASCII letters only. -/
def Transformer.IgnoresCase : Transformer → Prop
  | .column _ => True
  | .function transform => ∀ one other : String, Text.SameLetters one.toList other.toList →
      Agree Alike (transform one) (transform other)

theorem Transformer.ignoresCase_column (name : String) : (column name).IgnoresCase := trivial

theorem Transformer.ignoresCase_ok {made : String → Predicate}
    (same : ∀ one other : String, Text.SameLetters one.toList other.toList →
      made one = made other) :
    (function fun text => .ok (made text)).IgnoresCase := by
  intro one other letters
  exact .ok (same one other letters ▸ Alike.refl _)

namespace SearchProfile

theorem agree_transformTerm {transformer : Transformer} (ignores : transformer.IgnoresCase)
    {one other : String} (same : Text.SameLetters one.toList other.toList) :
    Agree Alike (transformTerm transformer one) (transformTerm transformer other) := by
  cases transformer with
  | column name => exact .ok (Lookup.alike_textLookup same name .contains)
  | function transform => exact (ignores one other same).mapError _

variable {profile : SearchProfile} (ignores : profile.Every Transformer.IgnoresCase)
include ignores

theorem agree_termPredicates {terms others : List String}
    (same : List.Forall₂ (fun term term' => Text.SameLetters term.toList term'.toList)
      terms others) :
    Agree (List.Forall₂ Alike) (profile.termPredicates terms) (profile.termPredicates others) := by
  cases transformed : profile.termTransformer with
  | some transformer =>
    have overlooks := ignores.term transformer transformed
    rw [termPredicates, termPredicates, transformed]
    exact .mapM same fun _ _ letters => agree_transformTerm overlooks letters
  | none =>
    have fieldwise : ∀ field, List.Forall₂ Alike
        (terms.map fun term => .compare field (.contains term))
        (others.map fun term => .compare field (.contains term)) := fun field =>
      List.forall₂_map_left_iff.2 (List.forall₂_map_right_iff.2
        (same.imp fun _ _ letters => Lookup.alike_textLookup letters field .contains))
    rw [termPredicates, termPredicates, transformed]
    dsimp only
    induction profile.fields with
    | nil => exact .ok .nil
    | cons field fields step =>
      cases step with
      | ok later => exact .ok (List.rel_append (fieldwise field) later)

theorem agree_filterPredicate (field : String) {value other : FilterValue Date}
    (same : value.SameLetters other) :
    Agree Alike (profile.filterPredicate field value) (profile.filterPredicate field other) := by
  cases same with
  | range range => exact .ok (Alike.refl _)
  | text comparison letters =>
    rw [filterPredicate, filterPredicate]
    split
    next transform transformed =>
      exact (ignores.of_transformer? transformed _ _ letters).mapError _
    next => exact .ok (Lookup.alike_textLookup letters _ comparison)

theorem agree_predicate? {query other : Query} (same : query.SameLetters other) :
    Agree (Option.Rel Alike) (profile.predicate? query) (profile.predicate? other) := by
  have ofFilters : Agree (List.Forall₂ Alike)
      (query.filters.entries.mapM fun entry => profile.filterPredicate entry.1 entry.2)
      (other.filters.entries.mapM fun entry => profile.filterPredicate entry.1 entry.2) := by
    refine .mapM same.filters fun entry entry' letters => ?_
    rw [letters.1]
    exact agree_filterPredicate ignores _ letters.2
  rw [predicate?, predicate?]
  refine (agree_termPredicates ignores same.terms).bind fun terms others alike => ?_
  refine ofFilters.bind fun filters more later => ?_
  have fragments : List.Forall₂ Alike (terms ++ filters) (others ++ more) :=
    List.rel_append alike later
  generalize terms ++ filters = one at fragments ⊢
  generalize others ++ more = two at fragments ⊢
  cases fragments with
  | nil => exact .ok .none
  | cons first rest => exact .ok (.some (Alike.any (.cons first rest)))

/-- Queries in other letters become the same condition. -/
theorem condition?_congr (entity : Entity) {search search' : String} {query other : Query}
    (accepted : Query.parse search = .ok query) (acceptedOther : Query.parse search' = .ok other)
    (same : query.SameLetters other) :
    profile.condition? entity search = profile.condition? entity search' := by
  have agree := agree_predicate? ignores same
  rw [← searchPredicate?_of_parse accepted, ← searchPredicate?_of_parse acceptedOther] at agree
  rw [condition?, condition?]
  refine (agree.bind fun found found' alike => ?_).eq
  cases alike with
  | none => exact .ok rfl
  | @some predicate predicate' alike =>
    have closed : closedCondition entity predicate = closedCondition entity predicate' := by
      rw [closedCondition, closedCondition, alike entity]
    dsimp only
    rw [closed]
    exact .refl fun _ => rfl

end SearchProfile

section

variable {one other : String} (same : Text.SameLetters one.toList other.toList)
include same

theorem toLower_trimBlanks_congr : (Text.trimBlanks one.toList).map Char.toLower =
    (Text.trimBlanks other.toList).map Char.toLower :=
  same.trimBlanks

theorem Issue.codePredicate_congr : codePredicate one = codePredicate other := by
  rw [codePredicate, codePredicate, IssueCode.read, IssueCode.read, toLower_trimBlanks_congr same]
  cases IssueCode.ofLower? ((Text.trimBlanks other.toList).map Char.toLower) <;> rfl

theorem Issue.numberPredicate_congr (column : String) :
    numberPredicate column one = numberPredicate column other := by
  have letters := same.trimBlanks
  have number : IssueCode.number? (Text.trimBlanks one.toList) =
      IssueCode.number? (Text.trimBlanks other.toList) := by
    rw [IssueCode.number?, IssueCode.number?, ← Text.readDigits_folded, letters,
      Text.readDigits_folded]
  rw [numberPredicate, numberPredicate, number]

theorem Article.statusPredicate_congr : statusPredicate one = statusPredicate other := by
  rw [statusPredicate, statusPredicate, toLower_trimBlanks_congr same]

theorem Role.predicate_congr : predicate one = predicate other := by
  rw [predicate, predicate, read, read, toLower_trimBlanks_congr same]
  cases ofName? (String.ofList ((Text.trimBlanks other.toList).map Char.toLower)) <;> rfl

end

open Transformer in
theorem Resource.ignoresCase (resource : Resource) :
    resource.searchProfile.Every Transformer.IgnoresCase := by
  refine resource.every_of_makes ignoresCase_column fun made makes =>
    ignoresCase_ok fun one other same => ?_
  cases makes with
  | code => exact Issue.codePredicate_congr same
  | number column => exact Issue.numberPredicate_congr same column
  | status => exact Article.statusPredicate_congr same
  | role => exact Role.predicate_congr same

def Resource.searchStatement (resource : Resource) (dialect : Sql.Dialect) (search : String) :
    Except SearchFailure Sql.Statement :=
  (resource.searchProfile.filter resource (some search)).map fun condition =>
    (⟨condition.map ConditionGroup.expression, none⟩ : Sql.Select resource).statement dialect

/-- Accepted queries whose terms and filters differ in the case of ASCII letters only, and that
only in terms and values, become the same condition and the same statement, text and bound values,
in every dialect. -/
theorem Resource.searchStatement_of_sameLetters (resource : Resource) {search search' : String}
    {query other : Query} (accepted : Query.parse search = .ok query)
    (acceptedOther : Query.parse search' = .ok other) (same : query.SameLetters other) :
    ∃ condition, resource.searchProfile.filter resource (some search) = .ok condition ∧
      resource.searchProfile.filter resource (some search') = .ok condition ∧
      ∀ dialect, ∃ statement, resource.searchStatement dialect search = .ok statement ∧
        resource.searchStatement dialect search' = .ok statement := by
  obtain ⟨condition, made⟩ : ∃ condition,
      resource.searchProfile.filter resource (some search) = .ok condition := by
    cases made : resource.searchProfile.filter resource (some search) with
    | ok condition => exact ⟨condition, rfl⟩
    | error failure =>
      obtain ⟨fault, refused, -⟩ :=
        (SearchProfile.condition?_eq_error_iff resource.neverFails).1 made
      cases accepted.symm.trans refused
  have alike := SearchProfile.condition?_congr resource.ignoresCase resource.entity accepted
    acceptedOther same
  have madeOther : resource.searchProfile.filter resource (some search') = .ok condition :=
    alike.symm.trans made
  refine ⟨condition, made, madeOther, fun dialect => ?_⟩
  rw [searchStatement, searchStatement, made, madeOther]
  exact ⟨_, rfl, rfl⟩

/-- A term, a code and a part of a key in other letters make the same statement: the codes are the
numbers that they name, and the part is in capitals. -/
theorem Issue.searchStatement_in_other_letters :
    (∃ condition,
      Issue.searchProfile.filter Resource.issues.entity (some "V3I2 code=v4I1 id:A") =
          .ok condition ∧
        Issue.searchProfile.filter Resource.issues.entity (some "v3i2 code=V4i1 id:a") =
          .ok condition ∧
        ∀ dialect, ∃ statement,
          Resource.issues.searchStatement dialect "V3I2 code=v4I1 id:A" = .ok statement ∧
            Resource.issues.searchStatement dialect "v3i2 code=V4i1 id:a" = .ok statement) ∧
    Resource.issues.searchStatement .sqlite "v3i2 code=V4i1 id:a" = .ok
      ⟨"SELECT \"issues\".\"id\", \"issues\".\"volume_num\", \"issues\".\"issue_num\", " ++
          "\"issues\".\"publish_date\" FROM \"issues\" " ++
          "WHERE (\"issues\".\"volume_num\" = ? AND \"issues\".\"issue_num\" = ?) " ++
          "OR (\"issues\".\"volume_num\" = ? AND \"issues\".\"issue_num\" = ?) " ++
          "OR UPPER(CAST(\"issues\".\"id\" AS TEXT)) LIKE ? ESCAPE '\\'",
        [.bigInt 3, .bigInt 2, .bigInt 4, .bigInt 1, .string "%A%"]⟩ := by
  have accepted : Query.parse "V3I2 code=v4I1 id:A" = .ok (.ofItems [.term "V3I2",
      .filter "code" (.text .equals "v4I1"), .filter "id" (.text .contains "A")]) := by cbv
  have acceptedOther : Query.parse "v3i2 code=V4i1 id:a" = .ok (.ofItems [.term "v3i2",
      .filter "code" (.text .equals "V4i1"), .filter "id" (.text .contains "a")]) := by cbv
  refine ⟨Resource.searchStatement_of_sameLetters .issues accepted acceptedOther ⟨?_, ?_⟩, by cbv⟩
  · exact .cons (by decide) .nil
  · exact .cons ⟨rfl, .text _ (by decide)⟩ (.cons ⟨rfl, .text _ (by decide)⟩ .nil)

end PeriodicalSearch
