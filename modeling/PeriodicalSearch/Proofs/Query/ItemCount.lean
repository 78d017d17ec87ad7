import PeriodicalSearch.Proofs.Query.Octets
import PeriodicalSearch.Proofs.Query.RoundTrip

/-! How many terms and filters a text can hold. Two items take three octets at least: a bare word
takes one, but something else has to follow before the next one, and everything else takes two. -/

namespace PeriodicalSearch

theorem Filters.length_setEntry_le (field : String) (value : FilterValue Date)
    (entries : List (String × FilterValue Date)) :
    (setEntry field value entries).length ≤ entries.length + 1 := by
  induction entries with
  | nil => exact Nat.le_refl 1
  | cons entry entries step =>
    unfold setEntry
    split
    · exact Nat.le_refl _
    · split
      · exact Nat.le_succ _
      · exact Nat.succ_le_succ step

theorem Filters.length_ofList_le (settings : List (String × FilterValue Date)) :
    (ofList settings).entries.length ≤ settings.length := by
  induction settings using List.reverseRecOn with
  | nil => exact Nat.le_refl 0
  | append_singleton settings setting step =>
    rw [ofList_concat, List.length_append, List.length_singleton]
    exact Nat.le_trans (length_setEntry_le ..) (Nat.succ_le_succ step)

namespace Query

def size (query : Query) : Nat := query.terms.length + query.filters.entries.length

theorem size_ofItems_le (items : List (Item Date)) : (ofItems items).size ≤ items.length := by
  have parted : (items.filterMap Item.term?).length + (items.filterMap Item.filter?).length =
      items.length := by
    induction items with
    | nil => rfl
    | cons item items step =>
      cases item <;> simp only [List.filterMap_cons, Item.term?, Item.filter?, List.length_cons] <;>
        omega
  have settings := Filters.length_ofList_le (items.filterMap Item.filter?)
  change (items.filterMap Item.term?).length +
    (Filters.ofList (items.filterMap Item.filter?)).entries.length ≤ items.length
  omega

theorem OpensWithValue.length_le {comparison : Comparison} {text rest : Place}
    {value : FilterValue DayLiteral} (opens : OpensWithValue comparison text value rest) :
    rest.length ≤ text.length := by
  cases opens with
  | quoted isQuote closed => exact Nat.le_of_lt (Nat.lt_succ_of_lt (length_quotedText_lt closed))
  | range writes ends => rw [List.length_append]; exact Nat.le_add_left ..
  | bare bare stops noRange => rw [List.length_append]; exact Nat.le_add_left ..

/-- An item takes two characters, or it is a bare word, behind which no other can begin at once. -/
theorem Opens.length_add_two_le {text rest : Place} {item : Item DayLiteral}
    (opens : Opens text item rest) : rest.length + 2 ≤ text.length ∨
      rest.length + 1 ≤ text.length ∧ EndsRun rest ∧ ¬EndsRun text := by
  cases opens with
  | quoted isQuote closed =>
    have shorter := length_quotedText_lt closed
    exact .inl (Nat.succ_le_succ shorter)
  | @bare run _ bare stops noField =>
    obtain ⟨nonempty, strict⟩ := isBare_iff.1 bare
    cases run with
    | nil => exact absurd rfl nonempty
    | cons c run =>
      refine .inr ⟨?_, stops, fun ends => ?_⟩
      · simp only [List.cons_append, List.length_cons, List.length_append]
        omega
      · cases (strict c List.mem_cons_self).symm.trans (ends c rfl)
  | @filter field gap behind _ comparison value name blank opens =>
    have nonempty := List.length_pos_iff.2 (isBare_iff.1 name).1
    have shorter := opens.length_le
    simp only [List.length_append, List.length_cons]
    omega

theorem ConsistsOf.length_items_le {text : Place} {items : List (Item DayLiteral)}
    (consists : ConsistsOf text items) :
    3 * items.length ≤ 2 * text.length + 1 ∧
      (EndsRun text → 3 * items.length ≤ 2 * text.length) := by
  induction consists with
  | nil blank => exact ⟨Nat.zero_le _, fun _ => Nat.zero_le _⟩
  | @cons gap text rest item items blank opens others step =>
    have alone : 3 * (items.length + 1) ≤ 2 * text.length + 1 ∧
        (EndsRun text → 3 * (items.length + 1) ≤ 2 * text.length) := by
      rcases opens.length_add_two_le with wide | ⟨narrow, ends, runs⟩
      · omega
      · have later := step.2 ends
        exact ⟨by omega, fun none => absurd none runs⟩
    rw [List.length_append, List.length_cons]
    cases gap with
    | nil => simpa using alone
    | cons c gap =>
      rw [List.length_cons]
      omega

/-- Two items of an accepted text take three octets at least. -/
theorem size_le_of_parse {text : String} {query : Query} (accepted : parse text = .ok query) :
    3 * query.size ≤ 2 * text.utf8ByteSize + 1 := by
  obtain ⟨-, items, resolved, consists, same, rfl⟩ := parse_eq_ok_iff.1 accepted
  have count : items.length = resolved.length := by
    simpa using congrArg List.length same
  have octets := Text.length_le_utf8Length text.toList
  rw [Text.utf8ByteSize_eq]
  calc
    3 * (ofItems resolved).size ≤ 3 * items.length :=
      Nat.mul_le_mul_left 3 (count ▸ size_ofItems_le resolved)
    _ ≤ 2 * text.toList.length + 1 := consists.length_items_le.1
    _ ≤ 2 * Text.utf8Length text.toList + 1 := by omega

def packed : Nat → List Char
  | 0 => ['x']
  | pairs + 1 => 'x' :: '\'' :: '\'' :: packed pairs

def packedTerms : Nat → List String
  | 0 => ["x"]
  | pairs + 1 => "x" :: "" :: packedTerms pairs

theorem length_packedTerms (pairs : Nat) : (packedTerms pairs).length = 2 * pairs + 1 := by
  induction pairs with
  | zero => rfl
  | succ pairs step =>
    rw [packedTerms, List.length_cons, List.length_cons, step]
    omega

theorem mem_packedTerms {pairs : Nat} {term : String} (member : term ∈ packedTerms pairs) :
    term = "x" ∨ term = "" := by
  induction pairs with
  | zero => exact .inl (List.mem_singleton.1 member)
  | succ pairs step =>
    rw [packedTerms, List.mem_cons, List.mem_cons] at member
    rcases member with rfl | rfl | member
    · exact .inl rfl
    · exact .inr rfl
    · exact step member

theorem utf8Length_packed (pairs : Nat) : Text.utf8Length (packed pairs) = 3 * pairs + 1 := by
  have one : 'x'.utf8Size = 1 ∧ '\''.utf8Size = 1 := by decide
  induction pairs with
  | zero => rfl
  | succ pairs step =>
    simp only [packed, Text.utf8Length_cons, one, step]
    omega

theorem consistsOf_packed (pairs : Nat) :
    ConsistsOf (packed pairs) ((packedTerms pairs).map .term) := by
  have bare : isBare ['x'] = true := by decide
  induction pairs with
  | zero =>
    have opens : Opens (['x'] ++ []) (.term (String.ofList ['x'])) [] :=
      .bare bare (fun c none => nomatch none) fun c none => nomatch none
    exact opens.consistsOf (.nil blank_nil)
  | succ pairs step =>
    have quote : Opens ('\'' :: '\'' :: packed pairs) (.term (String.ofList [])) (packed pairs) :=
      .quoted (.inl rfl) rfl
    have word : Opens (['x'] ++ '\'' :: '\'' :: packed pairs) (.term (String.ofList ['x']))
        ('\'' :: '\'' :: packed pairs) := by
      refine .bare bare (fun c same => ?_) fun c same => ?_
      · cases same
        decide
      · cases same
        exact IsQuote.not_isDelimiter (.inl rfl)
    exact word.consistsOf (quote.consistsOf step)

/-- The bound is attained: `2 * pairs + 1` terms in `3 * pairs + 1` octets. -/
theorem parse_packed {pairs : Nat} (short : 3 * pairs + 1 ≤ maxLength) :
    parse (String.ofList (packed pairs)) = .ok ⟨packedTerms pairs, Filters.empty⟩ := by
  have items : (⟨packedTerms pairs, Filters.empty⟩ : Query).items =
      (packedTerms pairs).map .term := List.append_nil _
  refine parse_eq_ok_iff.2 ⟨?_, (packedTerms pairs).map .term, _, ?_, ?_, (ofItems_items _).symm⟩
  · rw [Text.utf8ByteSize_ofList, utf8Length_packed]
    exact short
  · rw [String.toList_ofList]
    exact consistsOf_packed pairs
  · rw [items, List.map_map, List.map_map]
    rfl

end Query

end PeriodicalSearch
