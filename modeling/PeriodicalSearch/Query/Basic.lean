import PeriodicalSearch.Calendar.Date

/-!
Search queries: bare terms in the order they were written, and filters by field. A field has one
filter; setting it again replaces the value.
-/
namespace PeriodicalSearch

/-- A range of days with both ends included; either end may be open. The days may be calendar
days or literals that are still to be checked. -/
inductive Range (day : Type) where
  | between (first last : day)
  | upTo (last : day)
  | since (first : day)
  deriving DecidableEq

inductive Comparison where
  | contains
  | equals
  deriving DecidableEq

def Comparison.delimiter : Comparison → Char
  | .contains => ':'
  | .equals => '='

inductive FilterValue (day : Type) where
  | text (comparison : Comparison) (value : String)
  | range (range : Range day)
  deriving DecidableEq

/-- Filter values by field, in increasing order of the fields. -/
structure Filters where
  entries : List (String × FilterValue Date)
  sorted : entries.Pairwise (fun earlier later => earlier.1 < later.1)
  deriving DecidableEq

namespace Filters

def setEntry (field : String) (value : FilterValue Date) :
    List (String × FilterValue Date) → List (String × FilterValue Date)
  | [] => [(field, value)]
  | entry :: entries =>
    if field < entry.1 then (field, value) :: entry :: entries
    else if field = entry.1 then (field, value) :: entries
    else entry :: setEntry field value entries

theorem mem_setEntry {field : String} {value : FilterValue Date}
    {entries : List (String × FilterValue Date)} {found : String × FilterValue Date}
    (member : found ∈ setEntry field value entries) :
    found = (field, value) ∨ found ∈ entries := by
  induction entries with
  | nil => exact .inl (List.mem_singleton.1 member)
  | cons entry entries step =>
    unfold setEntry at member
    split at member
    · exact List.mem_cons.1 member
    · split at member
      · rcases List.mem_cons.1 member with same | later
        · exact .inl same
        · exact .inr (List.mem_cons_of_mem _ later)
      · rcases List.mem_cons.1 member with same | later
        · exact .inr (same ▸ List.mem_cons_self)
        · exact (step later).imp_right (List.mem_cons_of_mem _)

theorem sorted_setEntry (field : String) (value : FilterValue Date)
    {entries : List (String × FilterValue Date)}
    (sorted : entries.Pairwise (fun earlier later => earlier.1 < later.1)) :
    (setEntry field value entries).Pairwise (fun earlier later => earlier.1 < later.1) := by
  induction entries with
  | nil => exact List.pairwise_singleton _ _
  | cons entry entries step =>
    have parts := List.pairwise_cons.1 sorted
    unfold setEntry
    split
    next before =>
      refine List.pairwise_cons.2 ⟨fun later member => ?_, sorted⟩
      rcases List.mem_cons.1 member with same | member
      · exact same ▸ before
      · exact String.lt_trans before (parts.1 later member)
    next notBefore =>
      split
      next same =>
        exact List.pairwise_cons.2 ⟨fun later member => same ▸ parts.1 later member, parts.2⟩
      next other =>
        refine List.pairwise_cons.2 ⟨fun later member => ?_, step parts.2⟩
        rcases mem_setEntry member with new | old
        · subst new
          refine Decidable.byContradiction fun notAfter => other ?_
          exact String.le_antisymm (String.not_lt.1 notAfter) (String.not_lt.1 notBefore)
        · exact parts.1 later old

def empty : Filters := ⟨[], List.Pairwise.nil⟩

def set (filters : Filters) (field : String) (value : FilterValue Date) : Filters :=
  ⟨setEntry field value filters.entries, sorted_setEntry field value filters.sorted⟩

/-- The filters that a list of settings leaves; the last setting of a field counts. -/
def ofList (settings : List (String × FilterValue Date)) : Filters :=
  settings.foldl (fun filters setting => filters.set setting.1 setting.2) empty

end Filters

structure Query where
  terms : List String
  filters : Filters
  deriving DecidableEq

namespace Query

def isEmpty (query : Query) : Bool := query.terms.isEmpty && query.filters.entries.isEmpty

end Query

end PeriodicalSearch
