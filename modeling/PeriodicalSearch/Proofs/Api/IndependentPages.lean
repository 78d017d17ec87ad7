import PeriodicalSearch.Proofs.Api.Lists
import PeriodicalSearch.Proofs.Api.Pages
import PeriodicalSearch.Proofs.Api.Refusals
import PeriodicalSearch.Proofs.Store.Ties

/-! Pages that are asked for one by one. The database may order tied records anew for each request,
so a record may be on two pages or on none. This happens exactly where two tied records are
neighbours across the end of a page; so pages of every size are right only if no two of the records
are tied. -/

namespace PeriodicalSearch.Listing

open Store

variable {resource : Resource} {key : Sql.SortKey resource} {rows : List (Record resource)}

def pageCount (options : ListOptions) (total : Nat) : Nat := total ⌈/⌉ options.limit

def pageAt (options : ListOptions) (index : Nat) (ordered : List (Record resource)) :
    List (Record resource) :=
  (paginate (options.onPage (UInt64.ofNat (index + 1))) ordered).records

/-- All pages of a list with this many records, one after the other, where each page is cut out of
an answer of its own. -/
def pagesOf (options : ListOptions) (total : Nat) (answers : Nat → List (Record resource)) :
    List (Record resource) :=
  (List.range (pageCount options total)).flatMap fun index => pageAt options index (answers index)

/-- Whichever order the database chooses for each page, the pages hold every record exactly once. -/
def CoversAll (key : Sql.SortKey resource) (options : ListOptions)
    (rows : List (Record resource)) : Prop :=
  ∀ answers : Nat → List (Record resource), (∀ index, Allows key rows (answers index)) →
    (pagesOf options rows.length answers).Perm rows

def turning (last : Nat) (early late : List (Record resource)) (index : Nat) :
    List (Record resource) :=
  if index ≤ last then early else late

theorem allows_turning {early late : List (Record resource)} (first : Allows key rows early)
    (second : Allows key rows late) (last index : Nat) :
    Allows key rows (turning last early late index) := by
  unfold turning
  split
  · exact first
  · exact second

theorem pageCount_le_iff (options : ListOptions) {total count : Nat} :
    pageCount options total ≤ count ↔ total ≤ options.limit * count :=
  ceilDiv_le_iff_le_mul options.limit_bounds.1

theorem pageCount_le (options : ListOptions) (total : Nat) : pageCount options total ≤ total :=
  (pageCount_le_iff options).2 (Nat.le_mul_of_pos_left total options.limit_bounds.1)

theorem mem_drop_take {front back : List (Record resource)} {record : Record resource}
    {start size : Nat} (starts : start ≤ front.length) (ends : front.length < start + size) :
    record ∈ ((front ++ record :: back).drop start).take size := by
  have room : size - (front.drop start).length = size - (front.drop start).length - 1 + 1 := by
    rw [List.length_drop]
    omega
  rw [List.drop_append_of_le_length starts, List.take_append, room, List.take_succ_cons]
  exact List.mem_append_right _ List.mem_cons_self

section

variable (options : ListOptions) (short : rows.length < 2 ^ 63)
include short

theorem pageAt_eq {index : Nat} (asked : index < pageCount options rows.length)
    {ordered : List (Record resource)} (allows : Allows key rows ordered) :
    pageAt options index ordered = (ordered.drop (index * options.limit)).take options.limit := by
  have few : ordered.length ≤ Text.maxInt64 := by
    rw [allows.length_eq]
    exact Nat.le_pred_of_lt short
  have numbered : index + 1 < 2 ^ 64 := by
    have counted := pageCount_le options rows.length
    omega
  rw [pageAt, records_paginate few, ListOptions.before_onPage options numbered,
    ListOptions.limit_onPage]

/-- Without a tie across the ends of pages, a page has the same records whatever the order. -/
theorem pageAt_perm (sorted : Allows key rows rows) (apart : ¬ TiedAcross key options.limit rows)
    {index : Nat} (asked : index < pageCount options rows.length)
    {ordered : List (Record resource)} (allows : Allows key rows ordered) :
    (pageAt options index ordered).Perm (pageAt options index rows) := by
  have before : ∀ pages, (ordered.take (pages * options.limit)).Perm
      (rows.take (pages * options.limit)) := fun pages =>
    allows.take_perm_of_not_tiedAcross sorted.sorted apart (Nat.dvd_mul_left options.limit pages)
  have through := before (index + 1)
  rw [Nat.succ_mul, List.take_add, List.take_add, ← pageAt_eq options short asked allows,
    ← pageAt_eq options short asked sorted] at through
  apply (List.perm_append_left_iff (rows.take (index * options.limit))).1
  exact ((before index).symm.append_right _).trans through

theorem coversAll_of_not_tiedAcross (sorted : Allows key rows rows)
    (apart : ¬ TiedAcross key options.limit rows) : CoversAll key options rows := by
  intro answers allowed
  have counted := pageCount_le options rows.length
  have enough := (pageCount_le_iff options).1 (Nat.le_refl (pageCount options rows.length))
  rw [Nat.mul_comm] at enough
  have whole : pagesOf options rows.length (fun _ => rows) = rows :=
    flatMap_pages (Nat.le_pred_of_lt short) options (by omega) enough
  have pages : (pagesOf options rows.length answers).Perm
      (pagesOf options rows.length fun _ => rows) := by
    refine List.Perm.flatMap_left _ fun index member => ?_
    exact pageAt_perm options short sorted apart (List.mem_range.1 member) (allowed index)
  rwa [whole] at pages

omit short in
/-- Pages that hold every record once have none in common. -/
theorem disjoint_pages {total : Nat} {answers : Nat → List (Record resource)}
    (once : (pagesOf options total answers).Nodup) {early late : Nat} (order : early < late)
    (asked : late < pageCount options total) :
    List.Disjoint (pageAt options early (answers early)) (pageAt options late (answers late)) := by
  have inside : late < (List.range (pageCount options total)).length := by
    rwa [List.length_range]
  have apart := List.pairwise_iff_getElem.1 (List.nodup_flatMap.1 once).2 early late
    (order.trans inside) inside order
  rwa [List.getElem_range, List.getElem_range] at apart

/-- A tie across the end of a page lets the database put a record on both pages. -/
theorem not_coversAll_of_tiedAcross (distinct : rows.Nodup) (sorted : Allows key rows rows)
    (across : TiedAcross key options.limit rows) : ¬ CoversAll key options rows := by
  obtain ⟨front, one, other, back, rfl, ⟨boundary, ends⟩, tied⟩ := across
  intro covers
  obtain ⟨last, rfl⟩ : ∃ last, boundary = last + 1 := by
    refine Nat.exists_eq_succ_of_ne_zero fun none => ?_
    rw [none, Nat.mul_zero] at ends
    cases ends
  have asked : last + 1 < pageCount options (front ++ one :: other :: back).length := by
    rw [← Nat.not_le, pageCount_le_iff, ← ends, List.length_append, List.length_cons,
      List.length_cons]
    omega
  -- The last page before the boundary comes from the one order, the first page behind it from the
  -- other.
  have swapped := sorted.swap tied
  have once := (covers _ (allows_turning sorted swapped last)).nodup_iff.2 distinct
  have apart := disjoint_pages options once (Nat.lt_succ_self last) asked
  rw [turning, turning, if_pos (Nat.le_refl last), if_neg (Nat.not_succ_le_self last),
    pageAt_eq options short (Nat.lt_of_succ_lt asked) sorted,
    pageAt_eq options short asked swapped] at apart
  have room := options.limit_bounds.1
  rw [Nat.mul_succ, Nat.mul_comm] at ends
  have before : one ∈ ((front ++ one :: other :: back).drop (last * options.limit)).take
      options.limit := mem_drop_take (by omega) (by omega)
  have behind : one ∈ ((front ++ other :: one :: back).drop ((last + 1) * options.limit)).take
      options.limit := by
    have split : front ++ other :: one :: back = (front ++ [other]) ++ one :: back := by
      rw [List.append_assoc, List.singleton_append]
    rw [split]
    apply mem_drop_take <;> rw [List.length_append, List.length_singleton, Nat.succ_mul] <;> omega
  exact apart before behind

/-- Pages of one record each, and so pages of every size, are right if no records are tied. -/
theorem forall_coversAll_iff (distinct : rows.Nodup) (sorted : Allows key rows rows) :
    (∀ size, CoversAll key { options with perPage := size } rows) ↔
      ∀ one ∈ rows, ∀ other ∈ rows, Tied key one other → one = other := by
  constructor
  · intro covers one member other another tied
    by_cases across : TiedAcross key 1 rows
    · exact absurd (covers (some 1))
        (not_coversAll_of_tiedAcross { options with perPage := some 1 } short distinct sorted across)
    · exact eq_of_tied_of_not_tiedAcross sorted.sorted across member another tied
  · intro apart size
    exact coversAll_of_not_tiedAcross _ short sorted (not_tiedAcross_of_eq distinct _ apart)

end

/-- The rows that a query selects are the matching records, in one of the orders that its key
allows. -/
theorem allows_of_listed {store : Store} {condition : Option (Sql.Expression resource)}
    {records : List (Record resource)} (table : store.table resource = some records)
    (listed : store.select? ⟨condition, some key⟩ = some rows) :
    Allows key (records.filter (isSelected condition)) rows := by
  rw [select?_eq table] at listed
  split at listed
  · cases listed
    exact allows_mergeSort _
  · cases listed

/-- Let the database answer the request for each page of a well-formed list in any order that the
sort key allows. The pages of one size then hold every matching record exactly once, whichever orders
it chooses, if and only if no two tied records are neighbours across the end of a page. So this holds
for all sizes if and only if the key ties no two of them, as when they are sorted by their own keys. -/
theorem independent_pages_cover_iff {store : Store} {options : ListOptions}
    {query : Sql.Select resource} {records rows : List (Record resource)}
    (table : store.table resource = some records) (distinct : (records.map Record.key).Nodup)
    (selected : select resource options = .ok query) (listed : store.select? query = some rows)
    (short : rows.length < 2 ^ 63) :
    ∃ key, query.sortKey = some key ∧
      Allows key (records.filter (isSelected query.condition)) rows ∧
      (∀ size, CoversAll key { options with perPage := size } rows ↔
        ¬ TiedAcross key { options with perPage := size }.limit rows) ∧
      ((∀ size, CoversAll key { options with perPage := size } rows) ↔
        ∀ one ∈ rows, ∀ other ∈ rows, Tied key one other → one = other) ∧
      (key.column = .id → ∀ size, CoversAll key { options with perPage := size } rows) := by
  obtain ⟨key, keyed, -⟩ := select_sortKey selected
  obtain ⟨condition, sortKey⟩ := query
  obtain rfl : sortKey = some key := keyed
  have allows := allows_of_listed table listed
  have sorted : Allows key rows rows := ⟨.refl rows, allows.sorted⟩
  have different : rows.Nodup :=
    allows.perm.nodup_iff.2 ((List.Nodup.of_map _ distinct).filter _)
  have everySize := forall_coversAll_iff options short different sorted
  refine ⟨key, rfl, allows, fun size => ?_, everySize, fun byKey => everySize.2 ?_⟩
  · constructor
    · exact fun covers across => not_coversAll_of_tiedAcross _ short different sorted across covers
    · exact coversAll_of_not_tiedAcross _ short sorted
  · intro one member other another tied
    have stored : ∀ record ∈ rows, record ∈ records := fun record member =>
      (List.mem_filter.1 (allows.perm.mem_iff.1 member)).1
    exact List.inj_on_of_nodup_map distinct (stored one member) (stored other another)
      (key_eq_of_tied byKey tied)

/-- Users sorted by their keys are on pages of any size exactly once. -/
theorem independent_pages_cover_three_users : ∃ rows : List (Record .users),
    threeUsers.select? ⟨none, some ⟨.id, .ascending⟩⟩ = some rows ∧ rows.length = 3 ∧
      ∀ size, CoversAll ⟨.id, .ascending⟩ ⟨none, some "id", none, size⟩ rows := by
  obtain ⟨rows, listed, three⟩ : ∃ rows : List (Record .users),
      threeUsers.select? ⟨none, some ⟨.id, .ascending⟩⟩ = some rows ∧ rows.length = 3 :=
    ⟨_, rfl, (List.mergeSort_perm _ _).length_eq⟩
  have selected : select .users ⟨none, some "id", none, none⟩ =
      .ok ⟨none, some ⟨.id, .ascending⟩⟩ := by cbv
  have distinct : ((threeUsers.users.getD []).map fun user : Record .users => user.key).Nodup := by
    decide
  have short : rows.length < 2 ^ 63 := by
    rw [three]
    decide
  obtain ⟨key, keyed, -, -, -, byKey⟩ :=
    independent_pages_cover_iff rfl distinct selected listed short
  cases keyed
  exact ⟨rows, listed, three, byKey rfl⟩

def twins : List (Record .articles) :=
  [⟨⟨1⟩, "Twin", "", "Ann", "", none, none⟩, ⟨⟨2⟩, "Twin", "", "Bob", "", none, none⟩]

/-- On pages of one article, sorted by title as usual, the first twin may be on both. -/
theorem independent_pages_repeat_twin :
    (twins.map Record.key).Nodup ∧
      select .articles ⟨none, none, none, some 1⟩ =
        .ok ⟨none, some (Resource.usualSort .articles)⟩ ∧
      twins.filter (isSelected none) = twins ∧
      (∀ index, Allows (Resource.usualSort .articles) twins
        (turning 0 twins twins.reverse index)) ∧
      pagesOf ⟨none, none, none, some 1⟩ twins.length (turning 0 twins twins.reverse) =
        twins.take 1 ++ twins.take 1 ∧
      ¬ (twins.take 1 ++ twins.take 1).Perm twins := by
  have usual : Allows (Resource.usualSort .articles) twins twins := ⟨by decide, by decide⟩
  have other : Allows (Resource.usualSort .articles) twins twins.reverse := ⟨by decide, by decide⟩
  exact ⟨by decide, rfl, rfl, allows_turning usual other 0, rfl, by decide⟩

end PeriodicalSearch.Listing
