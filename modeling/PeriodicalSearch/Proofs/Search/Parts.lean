import PeriodicalSearch.Proofs.FirstFailure
import PeriodicalSearch.Search.Profile

/-! The parts of a query's predicate. Those of the terms come first, as many for each term as the
profile has fields or just one where a transformer takes terms over, and then one for each filter. -/

namespace PeriodicalSearch

def Predicate.union? : List Predicate → Option Predicate
  | [] => none
  | first :: others => some (.any (first :: others))

theorem map_eq_of_mapM {κ ε β : Type} {f : κ → Except ε β} {list : List κ} {made : List β}
    (succeeded : list.mapM f = .ok made) : list.map f = made.map Except.ok := by
  have reports : ReportsFirst (fun part => failure? (f part)) (list.map id) (list.mapM f)
      fun made => list.map f = made.map Except.ok :=
    ReportsFirst.mapM list fun _ => rfl
  exact (reports.of_eq_ok succeeded).2

theorem mapM_congr {κ ε β : Type} {f g : κ → Except ε β} {list : List κ}
    (same : ∀ part ∈ list, f part = g part) : list.mapM f = list.mapM g := by
  induction list with
  | nil => rfl
  | cons first others step =>
    rw [List.mapM_cons, List.mapM_cons, same first List.mem_cons_self,
      step fun part member => same part (List.mem_cons_of_mem first member)]

theorem mapM_eq_ok_map {κ ε β : Type} {f : κ → Except ε β} {g : κ → β} {list : List κ}
    (each : ∀ part ∈ list, f part = .ok (g part)) : list.mapM f = .ok (list.map g) :=
  (mapM_congr each).trans List.mapM_pure

namespace SearchProfile

variable {profile : SearchProfile} {query : Query} {ofTerms ofFilters : List Predicate}

structure Parts (profile : SearchProfile) (query : Query) (ofTerms ofFilters : List Predicate) :
    Prop where
  terms : profile.termPredicates query.terms = .ok ofTerms
  filters : (query.filters.entries.mapM fun entry => profile.filterPredicate entry.1 entry.2) =
    .ok ofFilters

theorem exists_parts {found : Option Predicate} (compiled : profile.predicate? query = .ok found) :
    ∃ ofTerms ofFilters, profile.Parts query ofTerms ofFilters ∧
      found = Predicate.union? (ofTerms ++ ofFilters) := by
  rw [predicate?] at compiled
  cases terms : profile.termPredicates query.terms with
  | error failure =>
    rw [terms] at compiled
    cases compiled
  | ok ofTerms =>
    rw [terms] at compiled
    cases filters :
        query.filters.entries.mapM fun entry => profile.filterPredicate entry.1 entry.2 with
    | error failure =>
      rw [filters] at compiled
      cases compiled
    | ok ofFilters =>
      rw [filters] at compiled
      refine ⟨ofTerms, ofFilters, ⟨terms, filters⟩, ?_⟩
      dsimp only [bind, Except.bind] at compiled
      cases whole : ofTerms ++ ofFilters with
      | nil => rw [whole] at compiled; cases compiled; rfl
      | cons first others => rw [whole] at compiled; cases compiled; rfl

theorem Parts.predicate?_eq (parts : profile.Parts query ofTerms ofFilters) :
    profile.predicate? query = .ok (Predicate.union? (ofTerms ++ ofFilters)) := by
  rw [predicate?, parts.terms, parts.filters]
  dsimp only [bind, Except.bind]
  cases ofTerms ++ ofFilters <;> rfl

def termWidth (profile : SearchProfile) : Nat :=
  match profile.termTransformer with
  | some _ => 1
  | none => profile.fields.length

def width (profile : SearchProfile) (query : Query) : Nat :=
  profile.termWidth * query.terms.length + query.filters.entries.length

theorem length_termPredicates {terms : List String} {made : List Predicate}
    (compiled : profile.termPredicates terms = .ok made) :
    made.length = profile.termWidth * terms.length := by
  cases transformed : profile.termTransformer with
  | some transformer =>
    rw [termPredicates, transformed] at compiled
    have lengths := congrArg List.length (map_eq_of_mapM compiled)
    rw [List.length_map, List.length_map] at lengths
    rw [termWidth, transformed, Nat.one_mul, lengths]
  | none =>
    rw [termPredicates, transformed] at compiled
    cases compiled
    rw [termWidth, transformed]
    simp [List.length_flatMap]

namespace Parts

variable (parts : profile.Parts query ofTerms ofFilters)
include parts

theorem length_filters : ofFilters.length = query.filters.entries.length := by
  have lengths := congrArg List.length (map_eq_of_mapM parts.filters)
  rw [List.length_map, List.length_map] at lengths
  exact lengths.symm

theorem length : (ofTerms ++ ofFilters).length = profile.width query := by
  rw [List.length_append, length_termPredicates parts.terms, parts.length_filters, width]

/-- What holds of the predicate of every term, whether compared or transformed, holds of those of
the query. -/
theorem forall_terms {property : Predicate → Prop}
    (compared : ∀ field ∈ profile.fields, ∀ text ∈ query.terms,
      property (.compare field (.contains text)))
    (transformed : ∀ transformer ∈ profile.termTransformer, ∀ text ∈ query.terms, ∀ predicate,
      transformTerm transformer text = .ok predicate → property predicate) :
    ∀ predicate ∈ ofTerms, property predicate := by
  intro predicate member
  have compiled := parts.terms
  cases registered : profile.termTransformer with
  | some transformer =>
    rw [termPredicates, registered] at compiled
    obtain ⟨text, sought, made⟩ :=
      (ReportsFirst.mem_iff_of_map_eq (map_eq_of_mapM compiled)).1 member
    exact transformed transformer registered text sought predicate made
  | none =>
    rw [termPredicates, registered] at compiled
    cases compiled
    obtain ⟨field, searched, found⟩ := List.mem_flatMap.1 member
    obtain ⟨text, sought, rfl⟩ := List.mem_map.1 found
    exact compared field searched text sought

theorem forall_filters {property : Predicate → Prop}
    (made : ∀ entry ∈ query.filters.entries, ∀ predicate,
      profile.filterPredicate entry.1 entry.2 = .ok predicate → property predicate) :
    ∀ predicate ∈ ofFilters, property predicate := by
  intro predicate member
  obtain ⟨entry, listed, compiled⟩ :=
    (ReportsFirst.mem_iff_of_map_eq (map_eq_of_mapM parts.filters)).1 member
  exact made entry listed predicate compiled

end Parts

end SearchProfile

end PeriodicalSearch
