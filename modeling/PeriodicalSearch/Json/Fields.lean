import PeriodicalSearch.Json.Basic

/-!
Records in JSON. A record is an object with a member for each field, or an array with an item for
each field in order; members of other names do not count.
-/
namespace PeriodicalSearch.Json

def memberCount (name : String) (members : List (Option String × Json)) : Nat :=
  (members.filter fun member => member.1 == some name).length

/-- The values of a record's fields, with none for a field that is not written. A field must not be
written twice, and every name must be a text. -/
def fields? (names : List String) : Json → Option (List (Option Json))
  | .object members =>
    if members.all (fun member => member.1.isSome) &&
        names.all (fun name => memberCount name members ≤ 1) then
      some (names.map fun name => members.lookup (some name))
    else
      none
  | .array items => if items.length = names.length then some (items.map some) else none
  | _ => none

def required? {α : Type} (decode : Json → Option α) (field : Option Json) : Option α :=
  field.bind decode

def optional? {α : Type} (decode : Json → Option α) (field : Option Json) : Option (Option α) :=
  match field with
  | none => some none
  | some .null => some none
  | some value => (decode value).map some

def int32? (value : Json) : Option Int32 :=
  (value.integer? (-0x80000000) 0x7FFFFFFF).map Int32.ofInt

def uint64? (value : Json) : Option UInt64 :=
  (value.integer? 0 0xFFFFFFFFFFFFFFFF).map fun number => UInt64.ofNat number.toNat

end PeriodicalSearch.Json
