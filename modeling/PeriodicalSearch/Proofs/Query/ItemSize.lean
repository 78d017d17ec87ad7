import PeriodicalSearch.Proofs.Query.WrittenSize

/-! How long the texts are that a query looks for. What is read of an item takes no more octets than
the item does, since quotes and escapes only add to it. -/

namespace PeriodicalSearch

open Text

def FilterValue.sought? {day : Type} : FilterValue day → Option String
  | .text _ value => some value
  | .range _ => none

namespace Query

def Item.sought? {day : Type} : Item day → Option String
  | .term text => some text
  | .filter _ value => value.sought?

theorem Item.sought?_mapDay {one other : Type} (change : one → other) (item : Item one) :
    (item.mapDay change).sought? = item.sought? := by
  cases item with
  | term text => rfl
  | filter field value => cases value <;> rfl

theorem utf8Length_quoted_le {quote : Char} {text body rest : List Char}
    (closed : quotedText quote text = some (body, rest)) :
    utf8Length rest ≤ utf8Length (quote :: text) ∧
      ∀ sought ∈ some (String.ofList body), utf8Length sought.toList ≤ utf8Length (quote :: text) := by
  have bound := (closes_of_quotedText closed).utf8Length_le
  rw [utf8Length_cons]
  refine ⟨by omega, fun sought same => ?_⟩
  cases same
  rw [String.toList_ofList]
  omega

theorem utf8Length_bare_le (word rest : List Char) :
    utf8Length rest ≤ utf8Length (word ++ rest) ∧
      ∀ sought ∈ some (String.ofList word), utf8Length sought.toList ≤ utf8Length (word ++ rest) := by
  rw [utf8Length_append]
  refine ⟨Nat.le_add_left .., fun sought same => ?_⟩
  cases same
  rw [String.toList_ofList]
  exact Nat.le_add_right ..

theorem OpensWithValue.utf8Length_sought_le {comparison : Comparison} {text rest : Place}
    {value : FilterValue DayLiteral} (opens : OpensWithValue comparison text value rest) :
    utf8Length rest ≤ utf8Length text ∧
      ∀ sought ∈ value.sought?, utf8Length sought.toList ≤ utf8Length text := by
  cases opens with
  | quoted isQuote closed => exact utf8Length_quoted_le closed
  | range writes ends =>
    rw [utf8Length_append]
    exact ⟨Nat.le_add_left .., fun sought none => by cases none⟩
  | bare bare stops noRange => exact utf8Length_bare_le _ rest

theorem Opens.utf8Length_sought_le {text rest : Place} {item : Item DayLiteral}
    (opens : Opens text item rest) : utf8Length rest ≤ utf8Length text ∧
      ∀ sought ∈ item.sought?, utf8Length sought.toList ≤ utf8Length text := by
  cases opens with
  | quoted isQuote closed => exact utf8Length_quoted_le closed
  | bare bare stops noField => exact utf8Length_bare_le _ rest
  | filter name blank opens =>
    obtain ⟨shorter, bound⟩ := opens.utf8Length_sought_le
    simp only [utf8Length_append, utf8Length_cons]
    refine ⟨by omega, fun sought same => ?_⟩
    have inside := bound sought same
    omega

theorem ConsistsOf.utf8Length_sought_le {text : Place} {items : List (Item DayLiteral)}
    (consists : ConsistsOf text items) : ∀ item ∈ items, ∀ sought ∈ item.sought?,
      utf8Length sought.toList ≤ utf8Length text := by
  induction consists with
  | nil blank => exact fun item none => absurd none List.not_mem_nil
  | cons blank opens others step =>
    obtain ⟨shorter, bound⟩ := opens.utf8Length_sought_le
    rw [utf8Length_append]
    refine List.forall_mem_cons.2 ⟨fun sought same => ?_, fun item member sought same => ?_⟩
    · exact Nat.le_trans (bound sought same) (Nat.le_add_left ..)
    · have later := step item member sought same
      omega

theorem utf8ByteSize_sought_le {text : String} {query : Query} (accepted : parse text = .ok query) :
    ∀ item ∈ query.items, ∀ sought ∈ item.sought?, sought.utf8ByteSize ≤ text.utf8ByteSize := by
  obtain ⟨-, items, resolved, consists, same, rfl⟩ := parse_eq_ok_iff.1 accepted
  intro item member sought found
  have mapped : item.mapDay some ∈ items.map (Item.mapDay DayLiteral.date?) :=
    same ▸ List.mem_map_of_mem (mem_of_mem_items_ofItems member)
  obtain ⟨read, listed, matched⟩ := List.mem_map.1 mapped
  rw [← item.sought?_mapDay some, ← matched, read.sought?_mapDay] at found
  rw [utf8ByteSize_eq, utf8ByteSize_eq]
  exact consists.utf8Length_sought_le read listed sought found

end Query

end PeriodicalSearch
