import Mathlib
import PeriodicalSearch.Query.Basic

/-! Filters as a map from fields to values. Setting a field replaces its value and touches no other
field, so of several settings of one field the last one counts, and the map determines the
entries. -/

namespace PeriodicalSearch.Filters

def get? (filters : Filters) (field : String) : Option (FilterValue Date) :=
  filters.entries.lookup field

theorem lookup_cons_eq_if {α : Type} (field key : String) (value : α)
    (entries : List (String × α)) : ((key, value) :: entries).lookup field =
      if field = key then some value else entries.lookup field := by
  rw [List.lookup_cons]
  by_cases same : field = key
  · rw [if_pos same, beq_iff_eq.2 same]
  · rw [if_neg same, beq_eq_false_iff_ne.2 same]

theorem lookup_map_snd {α β : Type} (f : α → β) (field : String) (settings : List (String × α)) :
    (settings.map fun setting => (setting.1, f setting.2)).lookup field =
      (settings.lookup field).map f := by
  induction settings with
  | nil => rfl
  | cons setting settings step =>
    rw [List.map_cons, lookup_cons_eq_if, step, lookup_cons_eq_if]
    split <;> rfl

theorem lookup_setEntry (field other : String) (value : FilterValue Date)
    (entries : List (String × FilterValue Date)) :
    (setEntry field value entries).lookup other =
      if other = field then some value else entries.lookup other := by
  induction entries with
  | nil => exact lookup_cons_eq_if other field value []
  | cons entry entries step =>
    obtain ⟨key, old⟩ := entry
    unfold setEntry
    split
    · exact lookup_cons_eq_if other field value _
    · split
      next replaced =>
        have replaced : field = key := replaced
        rw [lookup_cons_eq_if, lookup_cons_eq_if, ← replaced]
        by_cases same : other = field
        · simp only [if_pos same]
        · simp only [if_neg same]
      next apart =>
        have apart : field ≠ key := apart
        rw [lookup_cons_eq_if, step, lookup_cons_eq_if]
        by_cases same : other = field
        · simp only [same, if_neg apart, if_true]
        · simp only [if_neg same]

@[simp] theorem get?_empty (field : String) : empty.get? field = none := rfl

theorem get?_set (filters : Filters) (field other : String) (value : FilterValue Date) :
    (filters.set field value).get? other =
      if other = field then some value else filters.get? other :=
  lookup_setEntry field other value filters.entries

theorem ofList_concat (settings : List (String × FilterValue Date))
    (setting : String × FilterValue Date) :
    ofList (settings ++ [setting]) = (ofList settings).set setting.1 setting.2 := by
  rw [ofList, List.foldl_append]
  rfl

/-- The last setting of a field counts. -/
theorem get?_ofList (settings : List (String × FilterValue Date)) (field : String) :
    (ofList settings).get? field = settings.reverse.lookup field := by
  induction settings using List.reverseRecOn with
  | nil => rfl
  | append_singleton settings setting step =>
    rw [ofList_concat, get?_set, List.reverse_concat, lookup_cons_eq_if, step]

/-- Every entry is one of the settings. -/
theorem mem_ofList {settings : List (String × FilterValue Date)}
    {entry : String × FilterValue Date} (member : entry ∈ (ofList settings).entries) :
    entry ∈ settings := by
  induction settings using List.reverseRecOn with
  | nil => cases member
  | append_singleton settings setting step =>
    rw [ofList_concat] at member
    rcases mem_setEntry member with same | early
    · rw [same]
      exact List.mem_append_right _ List.mem_cons_self
    · exact List.mem_append_left _ (step early)

theorem entries_injective {one other : Filters} (same : one.entries = other.entries) :
    one = other := by
  cases one
  cases other
  cases same
  rfl

theorem setEntry_of_lt {field : String} {value : FilterValue Date}
    {entries : List (String × FilterValue Date)} (below : ∀ entry ∈ entries, entry.1 < field) :
    setEntry field value entries = entries ++ [(field, value)] := by
  induction entries with
  | nil => rfl
  | cons entry entries step =>
    have first := below entry List.mem_cons_self
    have notBefore : ¬ field < entry.1 := String.lt_asymm first
    have apart : field ≠ entry.1 := fun same => String.lt_irrefl _ (same ▸ first)
    rw [setEntry, if_neg notBefore, if_neg apart,
      step fun other member => below other (List.mem_cons_of_mem _ member)]
    rfl

/-- Filters are made anew by setting their entries in order. -/
theorem ofList_entries (filters : Filters) : ofList filters.entries = filters := by
  have entries : ∀ settings : List (String × FilterValue Date),
      settings.Pairwise (fun earlier later => earlier.1 < later.1) →
        (ofList settings).entries = settings := by
    intro settings sorted
    induction settings using List.reverseRecOn with
    | nil => rfl
    | append_singleton settings setting step =>
      obtain ⟨early, -, below⟩ := List.pairwise_append.1 sorted
      have before := step early
      rw [ofList_concat]
      change setEntry setting.1 setting.2 (ofList settings).entries = _
      rw [before]
      apply setEntry_of_lt
      intro entry member
      exact below entry member setting List.mem_cons_self
  apply entries_injective
  exact entries filters.entries filters.sorted

/-- The entries are the fields with their values. -/
theorem mem_entries_iff {filters : Filters} {field : String} {value : FilterValue Date} :
    (field, value) ∈ filters.entries ↔ filters.get? field = some value := by
  obtain ⟨entries, sorted⟩ := filters
  change (field, value) ∈ entries ↔ entries.lookup field = some value
  induction entries with
  | nil => exact iff_of_false List.not_mem_nil (fun none => nomatch none)
  | cons entry entries step =>
    obtain ⟨key, first⟩ := entry
    obtain ⟨below, others⟩ := List.pairwise_cons.1 sorted
    rw [lookup_cons_eq_if, List.mem_cons, step others, Prod.mk.injEq]
    by_cases same : field = key
    · subst same
      have single : entries.lookup field ≠ some value := fun later =>
        String.lt_irrefl _ (below (field, value) ((step others).2 later))
      rw [if_pos rfl, Option.some.injEq, or_iff_left single, and_iff_right rfl, eq_comm]
    · rw [if_neg same, or_iff_right fun both => same both.1]

theorem nodup_fields (filters : Filters) : (filters.entries.map Prod.fst).Nodup := by
  rw [List.Nodup, List.pairwise_map]
  refine filters.sorted.imp ?_
  intro earlier later before same
  rw [same] at before
  exact String.lt_irrefl _ before

theorem get?_eq_none_iff {filters : Filters} {field : String} :
    filters.get? field = none ↔ ∀ entry ∈ filters.entries, entry.1 ≠ field := by
  rw [Option.eq_none_iff_forall_ne_some]
  constructor
  · intro unset entry member same
    exact unset entry.2 (mem_entries_iff.1 (same ▸ member))
  · intro others value found
    exact others (field, value) (mem_entries_iff.2 found) rfl

/-- Filters with the same values have the same entries, since these are in the order of their
fields. -/
theorem eq_of_get?_eq {one other : Filters} (same : ∀ field, one.get? field = other.get? field) :
    one = other := by
  have perm : one.entries.Perm other.entries := by
    refine (List.perm_ext_iff_of_nodup one.nodup_fields.of_map other.nodup_fields.of_map).2 ?_
    exact fun entry => mem_entries_iff.trans (same entry.1 ▸ mem_entries_iff.symm)
  apply entries_injective
  exact perm.eq_of_pairwise (fun entry other _ _ before behind =>
    absurd before (String.lt_asymm behind)) one.sorted other.sorted

/-- A field without a filter gets an entry of its own. -/
theorem perm_set {filters : Filters} {field : String} (unset : filters.get? field = none)
    (value : FilterValue Date) :
    (filters.set field value).entries.Perm ((field, value) :: filters.entries) := by
  have others := get?_eq_none_iff.1 unset
  have placed : ∀ entries : List (String × FilterValue Date), (∀ entry ∈ entries, entry.1 ≠ field) →
      (setEntry field value entries).Perm ((field, value) :: entries) := by
    intro entries others
    induction entries with
    | nil => exact .refl _
    | cons entry entries step =>
      obtain ⟨first, others⟩ := List.forall_mem_cons.1 others
      unfold setEntry
      rw [if_neg first.symm]
      split
      · exact .refl _
      · exact ((step others).cons entry).trans (.swap ..)
  exact placed filters.entries others

/-- No more fields can have a filter than there are fields. -/
theorem length_entries_le {filters : Filters} {fields : List String}
    (known : ∀ entry ∈ filters.entries, entry.1 ∈ fields) :
    filters.entries.length ≤ fields.length := by
  have bound :=
    (List.subperm_of_subset filters.nodup_fields (List.forall_mem_map.2 known)).length_le
  rwa [List.length_map] at bound

end PeriodicalSearch.Filters
