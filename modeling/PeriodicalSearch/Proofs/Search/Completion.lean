import PeriodicalSearch.Proofs.Query.ItemSize
import PeriodicalSearch.Proofs.Search.Parts
import PeriodicalSearch.Proofs.Search.Totality
import PeriodicalSearch.Proofs.Search.Transformers
import PeriodicalSearch.Proofs.Sql.PatternSize
import PeriodicalSearch.Resource.Settings

/-! The patterns of searches. A search looks for its own texts only, which are no longer than the
search, so that every pattern of its condition is one that the database takes. -/

namespace PeriodicalSearch

def Transformer.SeeksNoPart : Transformer → Prop
  | .column _ => True
  | .function transform => ∀ text predicate, transform text = .ok predicate →
      predicate.soughtParts = []

theorem Transformer.seeksNoPart_ok {made : String → Predicate}
    (none : ∀ text, (made text).soughtParts = []) :
    (function fun text => .ok (made text)).SeeksNoPart := by
  intro text predicate same
  cases same
  exact none text

theorem Transformer.seeksNoPart_column (name : String) : (column name).SeeksNoPart := trivial

namespace SearchProfile

variable {profile : SearchProfile}

theorem soughtParts_transformTerm {transformer : Transformer} (seeks : transformer.SeeksNoPart)
    {text : String} {predicate : Predicate} (made : transformTerm transformer text = .ok predicate) :
    ∀ part ∈ predicate.soughtParts, part = text := by
  cases transformer with
  | column name =>
    cases made
    rw [Predicate.soughtParts_compare]
    exact fun part => List.mem_singleton.1
  | function transform =>
    rw [transformTerm] at made
    cases result : transform text with
    | error reason => rw [result] at made; cases made
    | ok other =>
      rw [result] at made
      cases made
      rw [seeks text predicate result]
      exact fun part none => absurd none List.not_mem_nil

theorem soughtParts_filterPredicate (seeks : profile.Every Transformer.SeeksNoPart) {field : String}
    {value : FilterValue Date} {predicate : Predicate}
    (made : profile.filterPredicate field value = .ok predicate) :
    ∀ part ∈ predicate.soughtParts, value.sought? = some part := by
  cases value with
  | range range =>
    cases made
    rw [Predicate.soughtParts_compare]
    exact fun part none => absurd none List.not_mem_nil
  | text comparison value =>
    rw [filterPredicate] at made
    split at made
    next transform transformed =>
      intro part member
      exact congrArg some
        (soughtParts_transformTerm (seeks.of_transformer? transformed) made part member).symm
    next =>
      cases made
      rw [Predicate.soughtParts_compare]
      cases comparison with
      | contains => exact fun part member => congrArg some (List.mem_singleton.1 member).symm
      | equals => exact fun part none => absurd none List.not_mem_nil

/-- What a search looks for within columns is the text of one of its terms or filters. -/
theorem exists_item_of_soughtParts (seeks : profile.Every Transformer.SeeksNoPart) {query : Query}
    {found : Option Predicate} (compiled : profile.predicate? query = .ok found) :
    ∀ predicate ∈ found, ∀ part ∈ predicate.soughtParts,
      ∃ item ∈ query.items, item.sought? = some part := by
  obtain ⟨ofTerms, ofFilters, parts, rfl⟩ := exists_parts compiled
  have terms : ∀ term ∈ query.terms, Query.Item.term term ∈ query.items := fun term member =>
    List.mem_append_left _ (List.mem_map_of_mem member)
  have each : ∀ fragment ∈ ofTerms ++ ofFilters, ∀ part ∈ fragment.soughtParts,
      ∃ item ∈ query.items, item.sought? = some part := by
    refine List.forall_mem_append.2 ⟨parts.forall_terms ?_ ?_, parts.forall_filters ?_⟩
    · intro field _ text listed part member
      rw [Predicate.soughtParts_compare] at member
      exact ⟨.term text, terms text listed, congrArg some (List.mem_singleton.1 member).symm⟩
    · intro transformer registered text listed predicate made part member
      have same := soughtParts_transformTerm (seeks.term transformer registered) made part member
      exact ⟨.term text, terms text listed, congrArg some same.symm⟩
    · intro entry listed predicate made part member
      exact ⟨.ofSetting entry, List.mem_append_right _ (List.mem_map_of_mem listed),
        soughtParts_filterPredicate seeks made part member⟩
  intro predicate whole
  cases fragments : ofTerms ++ ofFilters with
  | nil =>
    rw [fragments] at whole
    cases whole
  | cons first others =>
    rw [fragments] at whole each
    cases whole
    rw [Predicate.soughtParts_any]
    exact List.forall_mem_flatMap.2 each

end SearchProfile

theorem Issue.soughtParts_codePredicate (text : String) : (codePredicate text).soughtParts = [] := by
  rw [codePredicate]
  split
  next code _ =>
    rw [IssueCode.predicate]
    cases code.issue <;> simp [Predicate.soughtPart?]
  next => exact Predicate.soughtParts_nothing

theorem Issue.soughtParts_numberPredicate (column text : String) :
    (numberPredicate column text).soughtParts = [] := by
  rw [numberPredicate]
  split <;> simp [Predicate.soughtPart?]

theorem Article.soughtParts_statusPredicate (text : String) :
    (statusPredicate text).soughtParts = [] := by
  rw [statusPredicate]
  split
  · simp [Predicate.soughtPart?]
  · split <;> simp [Predicate.soughtPart?]

theorem Role.soughtParts_predicate (text : String) : (predicate text).soughtParts = [] := by
  rw [predicate]
  split <;> simp [Predicate.soughtPart?]

namespace Resource

open Transformer in
theorem seeksNoPart (resource : Resource) :
    resource.searchProfile.Every Transformer.SeeksNoPart := by
  refine resource.every_of_makes seeksNoPart_column fun made makes =>
    seeksNoPart_ok fun text => ?_
  cases makes with
  | code => exact Issue.soughtParts_codePredicate text
  | number column => exact Issue.soughtParts_numberPredicate column text
  | status => exact Article.soughtParts_statusPredicate text
  | role => exact Role.soughtParts_predicate text

/-- A search has at most 10000 octets, so that its patterns are far from too long. -/
theorem short_patterns {resource : Resource} {search : String} {query : Query}
    (accepted : Query.parse search = .ok query) {found : Option Predicate}
    (compiled : resource.searchProfile.predicate? query = .ok found) :
    ∀ predicate ∈ found, ∀ text ∈ predicate.soughtParts,
      (Lookup.containsPattern text).utf8ByteSize ≤ Sql.maxPatternSize := by
  intro predicate whole text part
  obtain ⟨item, listed, sought⟩ :=
    SearchProfile.exists_item_of_soughtParts resource.seeksNoPart compiled predicate whole text part
  have size := Query.utf8ByteSize_sought_le accepted item listed text sought
  have short := (Query.parse_eq_ok_iff.1 accepted).1
  have pattern := Lookup.utf8ByteSize_containsPattern_le text
  have limit : Query.maxLength = 10000 := rfl
  have room : Sql.maxPatternSize = 50000 := rfl
  omega

/-- The database completes the condition of every search, whatever the row. -/
theorem completes_of_filter {resource : Resource} {search : Option String}
    {condition : Option (ConditionGroup resource)}
    (conditioned : resource.searchProfile.filter resource search = .ok condition)
    (row : Sql.Row resource.entity) :
    ∀ group ∈ condition, group.expression.completes row = true := by
  intro group member
  cases search with
  | none =>
    cases conditioned
    cases member
  | some search =>
    cases parsed : Query.parse search with
    | error fault =>
      have refused : resource.searchProfile.filter resource (some search) =
          .error (.rejected (.ofFault search fault)) :=
        (SearchProfile.condition?_eq_error_iff resource.neverFails).2 ⟨fault, parsed, rfl⟩
      cases conditioned.symm.trans refused
    | ok query =>
      obtain ⟨found, made, compiled, same, conditions⟩ :=
        SearchProfile.exists_condition? resource.neverFails resource.entity parsed
      cases conditioned.symm.trans same
      cases conditions with
      | unrestricted => cases member
      | unknown lacks =>
        cases member
        rfl
      | known made =>
        cases member
        rw [ConditionGroup.expression_of_ofPredicate made]
        exact Predicate.completes_expression row (short_patterns parsed compiled _ rfl)

end Resource

end PeriodicalSearch
