import PeriodicalSearch.Proofs.Sql.CellOrder
import PeriodicalSearch.Store

/-! The orders that a sort key allows. The key leaves open how records with equal cells follow each
other, and nothing else: where two neighbours of one allowed order are not tied, the same records
stand before the boundary in every other. -/

namespace PeriodicalSearch.Store

open Sql

variable {resource : Resource} {key : SortKey resource}

def order (key : SortKey resource) (one other : Record resource) : Ordering :=
  match key.direction with
  | .ascending => (one.cell key.column).compare (other.cell key.column)
  | .descending => (other.cell key.column).compare (one.cell key.column)

def Tied (key : SortKey resource) (one other : Record resource) : Prop :=
  (one.cell key.column).compare (other.cell key.column) = .eq

abbrev IsSorted (key : SortKey resource) (ordered : List (Record resource)) : Prop :=
  ordered.Pairwise fun one other => mayPrecede key one other = true

/-- The database may return the records in the order of the second list. -/
structure Allows (key : SortKey resource) (records ordered : List (Record resource)) : Prop where
  perm : ordered.Perm records
  sorted : IsSorted key ordered

instance : Std.TransCmp (order key) where
  eq_swap := by
    intro one other
    obtain ⟨column, direction⟩ := key
    cases direction <;>
      change Cell.compare _ _ = (Cell.compare _ _).swap <;>
      exact Std.OrientedCmp.eq_swap
  isLE_trans := by
    intro one two three first second
    obtain ⟨column, direction⟩ := key
    cases direction with
    | ascending =>
      change (Cell.compare _ _).isLE = true at first second ⊢
      exact Std.TransCmp.isLE_trans first second
    | descending =>
      change (Cell.compare _ _).isLE = true at first second ⊢
      exact Std.TransCmp.isLE_trans second first

theorem mayPrecede_iff {one other : Record resource} :
    mayPrecede key one other = true ↔ (order key one other).isLE = true := by
  rw [Ordering.isLE_iff_ne_gt, mayPrecede, order]
  cases key.direction <;> exact bne_iff_ne

theorem mayPrecede_trans {one two three : Record resource} (first : mayPrecede key one two = true)
    (second : mayPrecede key two three = true) : mayPrecede key one three = true := by
  rw [mayPrecede_iff] at first second ⊢
  exact Std.TransCmp.isLE_trans first second

theorem mayPrecede_total (key : SortKey resource) (one other : Record resource) :
    mayPrecede key one other = true ∨ mayPrecede key other one = true := by
  rw [mayPrecede_iff, mayPrecede_iff, ← Std.OrientedCmp.isGE_iff_isLE (a := one)]
  cases order key one other <;> decide

theorem tied_iff {one other : Record resource} : Tied key one other ↔
    mayPrecede key one other = true ∧ mayPrecede key other one = true := by
  have same : Tied key one other ↔ order key one other = .eq := by
    rw [Tied, order]
    cases key.direction with
    | ascending => rfl
    | descending => exact Std.OrientedCmp.eq_comm
  rw [same, mayPrecede_iff, mayPrecede_iff, ← Std.OrientedCmp.isGE_iff_isLE (a := one)]
  cases order key one other <;> decide

/-- Records that are sorted by their keys are told apart. -/
theorem key_eq_of_tied (sorted : key.column = .id) {one other : Record resource}
    (tied : Tied key one other) : Record.key one = Record.key other := by
  rw [Tied, sorted, Cell.compare_eq_iff] at tied
  obtain ⟨-, numbers, -, bits⟩ := tied
  cases resource with
  | issues => exact Int32.toInt_inj.1 numbers
  | articles => exact congrArg Uuid.mk (BitVec.eq_of_toNat_eq bits)
  | users => exact congrArg Uuid.mk (BitVec.eq_of_toNat_eq bits)

section

variable {records ordered : List (Record resource)}

theorem mayPrecede_refl (key : SortKey resource) (record : Record resource) :
    mayPrecede key record record = true :=
  (mayPrecede_total key record record).elim id id

theorem allows_mergeSort (records : List (Record resource)) :
    Allows key records (records.mergeSort (mayPrecede key)) where
  perm := List.mergeSort_perm _ _
  sorted := by
    apply List.pairwise_mergeSort
    · exact fun _ _ _ first second => mayPrecede_trans first second
    · exact fun one other => Bool.or_eq_true_iff.2 (mayPrecede_total key one other)

theorem Allows.length_eq (allows : Allows key records ordered) :
    ordered.length = records.length := allows.perm.length_eq

def isUpTo (key : SortKey resource) (last record : Record resource) : Bool :=
  mayPrecede key record last

/-- The records up to a given one come first. -/
theorem filter_isUpTo_eq_take (last : Record resource) (sorted : IsSorted key ordered) :
    ordered.filter (isUpTo key last) =
      ordered.take (ordered.countP (isUpTo key last)) := by
  induction ordered with
  | nil => rfl
  | cons record ordered step =>
    obtain ⟨first, others⟩ := List.pairwise_cons.1 sorted
    by_cases early : isUpTo key last record = true
    · rw [List.filter_cons_of_pos early, List.countP_cons_of_pos early, List.take_succ_cons,
        step others]
    · have late : ∀ other ∈ ordered, ¬ isUpTo key last other = true := by
        intro other member precedes
        exact early (mayPrecede_trans (first other member) precedes)
      rw [List.filter_cons_of_neg early, List.countP_cons_of_neg early,
        List.filter_eq_nil_iff.2 late, List.countP_eq_zero.2 late, List.take_zero]

section

variable {front back : List (Record resource)} {one other : Record resource}
  (sorted : IsSorted key (front ++ [one] ++ other :: back)) (apart : ¬ Tied key one other)
include sorted apart

/-- Where two neighbours are not tied, nothing behind the boundary may stand before it. -/
theorem filter_isUpTo_append :
    (front ++ [one] ++ other :: back).filter (isUpTo key one) = front ++ [one] := by
  obtain ⟨begins, ends, across⟩ := List.pairwise_append.1 sorted
  have early : ∀ record ∈ front ++ [one], isUpTo key one record = true := by
    intro record member
    rcases List.mem_append.1 member with before | last
    · exact (List.pairwise_append.1 begins).2.2 record before one List.mem_cons_self
    · rw [List.mem_singleton.1 last]
      exact mayPrecede_refl key one
  have late : ∀ record ∈ other :: back, ¬ isUpTo key one record = true := by
    intro record member precedes
    have next : mayPrecede key other record = true := by
      rcases List.mem_cons.1 member with rfl | behind
      · exact mayPrecede_refl key record
      · exact (List.pairwise_cons.1 ends).1 record behind
    have forth := across one (List.mem_append_right _ List.mem_cons_self) other List.mem_cons_self
    exact apart (tied_iff.2 ⟨forth, mayPrecede_trans next precedes⟩)
  rw [List.filter_append, List.filter_eq_self.2 early, List.filter_eq_nil_iff.2 late,
    List.append_nil]

/-- Then every order has the same records before the boundary. -/
theorem Allows.take_perm (allows : Allows key (front ++ [one] ++ other :: back) ordered) :
    (ordered.take (front ++ [one]).length).Perm (front ++ [one]) := by
  have kept := filter_isUpTo_append sorted apart
  have same := allows.perm.filter (isUpTo key one)
  have count : ordered.countP (isUpTo key one) = (front ++ [one]).length := by
    rw [List.countP_eq_length_filter, same.length_eq, kept]
  rwa [kept, filter_isUpTo_eq_take one allows.sorted, count] at same

end

end

/-- Two neighbours in the list are tied, and a page of this size ends between them. -/
def TiedAcross (key : SortKey resource) (size : Nat) (records : List (Record resource)) : Prop :=
  ∃ front one other back, records = front ++ one :: other :: back ∧
    size ∣ front.length + 1 ∧ Tied key one other

section

variable {records rows ordered : List (Record resource)}

theorem Allows.take_perm_of_not_tiedAcross {size count : Nat} (allows : Allows key rows ordered)
    (sorted : IsSorted key rows) (apart : ¬ TiedAcross key size rows) (divides : size ∣ count) :
    (ordered.take count).Perm (rows.take count) := by
  by_cases all : rows.length ≤ count
  · rw [List.take_of_length_le all, List.take_of_length_le (allows.length_eq.trans_le all)]
    exact allows.perm
  obtain ⟨front, back, rfl, rfl⟩ : ∃ front back, rows = front ++ back ∧ front.length = count :=
    ⟨rows.take count, rows.drop count, (List.take_append_drop count rows).symm,
      List.length_take_of_le (Nat.le_of_not_le all)⟩
  rw [List.take_left]
  cases back with
  | nil =>
    rw [List.append_nil] at all
    exact absurd (Nat.le_refl _) all
  | cons other back =>
    -- The page ends between `one` and `other`. They are not tied, so no order moves a record across.
    rcases List.eq_nil_or_concat front with rfl | ⟨front, one, rfl⟩
    · exact .refl _
    · rw [List.concat_eq_append] at allows sorted apart divides ⊢
      apply allows.take_perm sorted
      intro tied
      rw [List.append_assoc, List.singleton_append] at apart
      rw [List.length_append, List.length_singleton] at divides
      exact apart ⟨front, one, other, back, rfl, divides, tied⟩

theorem Allows.swap {front back : List (Record resource)} {one other : Record resource}
    (allows : Allows key records (front ++ one :: other :: back)) (tied : Tied key one other) :
    Allows key records (front ++ other :: one :: back) where
  perm := ((List.Perm.swap one other back).append_left front).trans allows.perm
  sorted := by
    obtain ⟨begins, ends, across⟩ := List.pairwise_append.1 allows.sorted
    obtain ⟨first, others⟩ := List.pairwise_cons.1 ends
    obtain ⟨second, last⟩ := List.pairwise_cons.1 others
    have swapped : IsSorted key (other :: one :: back) := by
      refine List.pairwise_cons.2 ⟨?_, List.pairwise_cons.2 ⟨?_, last⟩⟩
      · exact List.forall_mem_cons.2 ⟨(tied_iff.1 tied).2, second⟩
      · exact fun record member => first record (List.mem_cons_of_mem _ member)
    refine List.pairwise_append.2 ⟨begins, swapped, fun record before later member => ?_⟩
    exact across record before later ((List.Perm.swap other one back).mem_iff.2 member)

def Before (key : SortKey resource) (one other : Record resource) : Prop :=
  ¬ mayPrecede key other one = true

instance : Trans (Before key) (Before key) (Before key) where
  trans := by
    intro one two three first second back
    have forth := (mayPrecede_total key one two).resolve_right first
    exact second (mayPrecede_trans back forth)

/-- Pages of one record end everywhere, so that ties are found between neighbours. -/
theorem eq_of_tied_of_not_tiedAcross (sorted : IsSorted key rows)
    (apart : ¬ TiedAcross key 1 rows) {one other : Record resource} (member : one ∈ rows)
    (another : other ∈ rows) (tied : Tied key one other) : one = other := by
  have chain : rows.IsChain (Before key) := by
    rw [List.isChain_iff_forall_rel_of_append_cons_cons]
    rintro one other front back rfl backwards
    have ends := (List.pairwise_append.1 sorted).2.1
    have forth := (List.pairwise_cons.1 ends).1 other List.mem_cons_self
    exact apart ⟨front, one, other, back, rfl, Nat.one_dvd _, tied_iff.2 ⟨forth, backwards⟩⟩
  have untied : rows.Pairwise fun one other => ¬ Tied key one other :=
    (List.isChain_iff_pairwise.1 chain).imp fun before tied => before (tied_iff.1 tied).2
  have symmetric : Std.Symm fun one other : Record resource => ¬ Tied key one other :=
    ⟨fun one other apart tied => apart (tied_iff.2 (tied_iff.1 tied).symm)⟩
  by_contra different
  exact untied.forall member another different tied

theorem not_tiedAcross_of_eq (distinct : rows.Nodup) (size : Nat)
    (apart : ∀ one ∈ rows, ∀ other ∈ rows, Tied key one other → one = other) :
    ¬ TiedAcross key size rows := by
  rintro ⟨front, one, other, back, rfl, -, tied⟩
  have same := apart one (by simp) other (by simp) tied
  rw [same] at distinct
  have twice := (List.nodup_append.1 distinct).2.1
  exact (List.nodup_cons.1 twice).1 List.mem_cons_self

end

end PeriodicalSearch.Store
