import Mathlib
import PeriodicalSearch.Api.Listing

/-! The pages of a list. The offset of a page stops growing at the largest signed integer, where no
list has a record any more; so the pages of one size are the list cut into pieces, and behind the
last piece they are empty. Requests for several pages of one search get pieces of the same list. -/

namespace PeriodicalSearch

namespace ListOptions

def onPage (options : ListOptions) (page : UInt64) : ListOptions :=
  { options with page := some page }

@[simp] theorem limit_onPage (options : ListOptions) (page : UInt64) :
    (options.onPage page).limit = options.limit := rfl

/-- A page has the size that is asked for, cut to its bounds, and the usual size if none is. -/
theorem limit_eq (options : ListOptions) : options.limit = match options.perPage with
    | none => usualPageSize
    | some size => max 1 (min size.toNat maxPageSize) := by
  rw [limit]
  cases options.perPage <;> rfl

/-- A page has room for a record, so that every list fits on enough pages. -/
theorem limit_bounds (options : ListOptions) :
    1 ≤ options.limit ∧ options.limit ≤ maxPageSize := by
  have sizes : 1 ≤ maxPageSize := by decide
  unfold limit
  omega

def before (options : ListOptions) : Nat :=
  (max ((options.page.map UInt64.toNat).getD 1) 1 - 1) * options.limit

theorem before_onPage (options : ListOptions) {index : Nat} (numbered : index + 1 < 2 ^ 64) :
    (options.onPage (UInt64.ofNat (index + 1))).before = index * options.limit := by
  have number : (UInt64.ofNat (index + 1)).toNat = index + 1 := UInt64.toNat_ofNat_of_lt' numbered
  rw [before, limit_onPage, onPage, Option.map_some, Option.getD_some, number,
    Nat.max_eq_left (Nat.le_add_left ..), Nat.add_sub_cancel]

theorem offset_eq (options : ListOptions) : options.offset = min options.before Text.maxInt64 := by
  have smaller : Text.maxInt64 ≤ Text.maxUInt64 := by decide
  rw [offset, ← before, Nat.min_assoc, Nat.min_eq_right smaller]

end ListOptions

namespace Listing

variable {resource : Resource} {records : List (Record resource)}
  (few : records.length ≤ Text.maxInt64)
include few

theorem records_paginate (options : ListOptions) :
    (paginate options records).records = (records.drop options.before).take options.limit := by
  rw [paginate, ListOptions.offset_eq]
  rcases Nat.le_total options.before Text.maxInt64 with within | beyond
  · rw [Nat.min_eq_left within]
  · rw [Nat.min_eq_right beyond, List.drop_eq_nil_of_le few,
      List.drop_eq_nil_of_le (Nat.le_trans few beyond)]

theorem records_paginate_beyond {options : ListOptions} (beyond : records.length ≤ options.before) :
    (paginate options records).records = [] := by
  rw [records_paginate few, List.drop_eq_nil_of_le beyond, List.take_nil]

theorem flatMap_pages_eq_take (options : ListOptions) {count : Nat} (numbered : count < 2 ^ 64) :
    ((List.range count).flatMap fun index =>
      (paginate (options.onPage (UInt64.ofNat (index + 1))) records).records) =
        records.take (count * options.limit) := by
  induction count with
  | zero => rw [Nat.zero_mul, List.take_zero]; rfl
  | succ count step =>
    rw [List.range_succ, List.flatMap_append, step (Nat.lt_of_succ_lt numbered),
      List.flatMap_singleton, records_paginate few, ListOptions.before_onPage options numbered,
      ListOptions.limit_onPage, Nat.succ_mul, List.take_add]

/-- Enough pages of one size are the whole list. -/
theorem flatMap_pages (options : ListOptions) {count : Nat} (numbered : count < 2 ^ 64)
    (enough : records.length ≤ count * options.limit) :
    ((List.range count).flatMap fun index =>
      (paginate (options.onPage (UInt64.ofNat (index + 1))) records).records) = records := by
  rw [flatMap_pages_eq_take few options numbered, List.take_of_length_le enough]

theorem length_records_paginate (options : ListOptions) :
    (paginate options records).records.length =
      min options.limit (records.length - options.before) := by
  rw [records_paginate few, List.length_take, List.length_drop]

omit few

/-- The page and its size have no part in the query. -/
theorem page_eq_paginate {store : Store} {options : ListOptions} {query : Sql.Select resource}
    (selected : select resource options = .ok query) (listed : store.select? query = some records)
    (number size : Option UInt64) :
    Listing.page store resource { options with page := number, perPage := size } =
      .ok (paginate { options with page := number, perPage := size } records) := by
  have same : select resource { options with page := number, perPage := size } = .ok query :=
    selected
  rw [Listing.page, same]
  dsimp only [bind, Except.bind]
  rw [listed]
  rfl

/-- A page has room for 1 to 100 records, and its offset is exact up to the largest signed integer.
So the pages of a list of fewer than 2 ^ 63 records all tell the length of the list and, for each
size, are the list cut into pieces: a page is full as long as there are records left for it, and
every page behind the last record is empty. Page 0 is page 1, and so is a page without a number. -/
theorem pages_partition :
    (∀ options : ListOptions, 1 ≤ options.limit ∧ options.limit ≤ 100 ∧ options.offset =
      min ((max ((options.page.map UInt64.toNat).getD 1) 1 - 1) * options.limit) (2 ^ 63 - 1)) ∧
    ∀ (store : Store) (resource : Resource) (options : ListOptions) (query : Sql.Select resource)
      (records : List (Record resource)),
      select resource options = .ok query → store.select? query = some records →
      records.length < 2 ^ 63 →
      ∃ pageOf : Option UInt64 → Option UInt64 → Page resource, ∀ size,
        (∀ number, let asked : ListOptions := { options with page := number, perPage := size }
          Listing.page store resource asked = .ok (pageOf number size) ∧
          (pageOf number size).total = records.length ∧
          (pageOf number size).records.length =
            min asked.limit (records.length - asked.before) ∧
          (records.length ≤ asked.before → (pageOf number size).records = [])) ∧
        pageOf (some 0) size = pageOf (some 1) size ∧ pageOf none size = pageOf (some 1) size ∧
        ∀ count < 2 ^ 64, records.length ≤ count * { options with perPage := size }.limit →
          ((List.range count).flatMap fun index =>
            (pageOf (some (UInt64.ofNat (index + 1))) size).records) = records := by
  constructor
  · intro options
    exact ⟨options.limit_bounds.1, options.limit_bounds.2, options.offset_eq⟩
  · intro store resource options query records selected listed short
    have few : records.length ≤ Text.maxInt64 := Nat.le_pred_of_lt short
    refine ⟨fun number size => paginate { options with page := number, perPage := size } records,
      fun size => ⟨fun number => ⟨?_, rfl, ?_, fun beyond => ?_⟩, rfl, rfl, ?_⟩⟩
    · exact page_eq_paginate selected listed number size
    · exact length_records_paginate few _
    · exact records_paginate_beyond few beyond
    · intro count numbered enough
      exact flatMap_pages few { options with perPage := size } numbered enough

def threeUsers : Store :=
  ⟨none, none, some [⟨⟨1⟩, "cy", "", .editor⟩, ⟨⟨2⟩, "al", "", .editor⟩, ⟨⟨3⟩, "bo", "", .editor⟩]⟩

/-- Of three users two are on the first page of two and one is on the second, and the last page that
can be asked for has none; all tell that there are three. -/
theorem pages_of_three_users : ∃ first second last : Page .users,
    Listing.page threeUsers .users ⟨none, none, none, some 2⟩ = .ok first ∧
      first.total = 3 ∧ first.records.length = 2 ∧
    Listing.page threeUsers .users ⟨none, none, some 2, some 2⟩ = .ok second ∧
      second.total = 3 ∧ second.records.length = 1 ∧
    Listing.page threeUsers .users ⟨none, none, some 18446744073709551615, some 2⟩ = .ok last ∧
      last.total = 3 ∧ last.records = [] := by
  obtain ⟨rows, listed, three⟩ : ∃ rows : List (Record .users),
      threeUsers.select? ⟨none, some (Resource.usualSort .users)⟩ = some rows ∧ rows.length = 3 :=
    ⟨_, rfl, (List.mergeSort_perm _ _).length_eq⟩
  have selected : select .users ListOptions.empty =
      .ok ⟨none, some (Resource.usualSort .users)⟩ := rfl
  have short : rows.length < 2 ^ 63 := by
    rw [three]
    decide
  have two (number : Option UInt64) : ListOptions.limit ⟨none, none, number, some 2⟩ = 2 :=
    ListOptions.limit_eq _
  obtain ⟨pageOf, pages⟩ := pages_partition.2 threeUsers .users ListOptions.empty _ rows selected
    listed short
  obtain ⟨first, firstTotal, firstLength, -⟩ := (pages (some 2)).1 none
  obtain ⟨second, secondTotal, secondLength, -⟩ := (pages (some 2)).1 (some 2)
  obtain ⟨last, lastTotal, -, beyond⟩ := (pages (some 2)).1 (some 18446744073709551615)
  simp only [ListOptions.empty, ListOptions.before, two, three] at firstLength secondLength beyond
  exact ⟨_, _, _, first, firstTotal.trans three, firstLength, second, secondTotal.trans three,
    secondLength, last, lastTotal.trans three, beyond (by decide)⟩

end Listing

end PeriodicalSearch
