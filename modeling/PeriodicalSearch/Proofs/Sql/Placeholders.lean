import Mathlib.Data.List.Basic
import PeriodicalSearch.Sql.Statement

/-! The text of statements around their placeholders. Whatever the bound values are, the text is the
same fixed parts with one placeholder between each two of them. -/

namespace PeriodicalSearch.Sql

/-- The texts in their order, with one of the insertions between each two of them. -/
def woven : (texts insertions : List String) → String
  | [], _ => ""
  | text :: _, [] => text
  | text :: texts, insertion :: insertions => text ++ insertion ++ woven texts insertions

namespace Fragment

variable {dialect : Dialect}

def values (fragments : List Fragment) : List Value := fragments.filterMap value?

@[simp] theorem values_nil : values [] = [] := rfl

@[simp] theorem values_cons_bound (value : Value) (fragments : List Fragment) :
    values (.bound value :: fragments) = value :: values fragments := rfl

@[simp] theorem values_cons_words (fixed : String) (fragments : List Fragment) :
    values (.words fixed :: fragments) = values fragments := rfl

@[simp] theorem values_cons_name (written : String) (fragments : List Fragment) :
    values (.name written :: fragments) = values fragments := rfl

@[simp] theorem values_append (fragments later : List Fragment) :
    values (fragments ++ later) = values fragments ++ values later := List.filterMap_append ..

theorem values_separated (separator : String) (items : List (List Fragment)) :
    values (separated separator items) = items.flatMap values := by
  induction items with
  | nil => rfl
  | cons item items step =>
    cases items with
    | nil => simp [separated]
    | cons next items =>
      change values (item ++ .words separator :: separated separator (next :: items)) = _
      rw [values_append, values_cons_words, step]
      exact List.flatMap_cons.symm

theorem text_append (before : Nat) (fragments later : List Fragment) :
    text dialect before (fragments ++ later) =
      text dialect before fragments ++ text dialect (before + (values fragments).length) later := by
  induction fragments generalizing before with
  | nil => simp [text]
  | cons fragment fragments step =>
    cases fragment with
    | bound value =>
      have next : before + 1 + (values fragments).length =
          before + ((values fragments).length + 1) := by omega
      simp only [List.cons_append, text, step, values_cons_bound, List.length_cons, next,
        String.append_assoc]
    | words fixed =>
      simp only [List.cons_append, text, step, values_cons_words, String.append_assoc]
    | name written =>
      simp only [List.cons_append, text, step, values_cons_name, String.append_assoc]

def lead (text : String) : List String → List String
  | [] => [text]
  | first :: others => (text ++ first) :: others

def gaps (dialect : Dialect) : List Fragment → List String
  | [] => [""]
  | .words fixed :: fragments => lead fixed (gaps dialect fragments)
  | .name written :: fragments => lead (dialect.quote written) (gaps dialect fragments)
  | .bound _ :: fragments => "" :: gaps dialect fragments

theorem length_lead (text : String) {texts : List String} (some : texts ≠ []) :
    (lead text texts).length = texts.length := by
  cases texts with
  | nil => exact absurd rfl some
  | cons first others => rfl

theorem woven_lead (text : String) {texts : List String} (some : texts ≠ [])
    (insertions : List String) :
    woven (lead text texts) insertions = text ++ woven texts insertions := by
  cases texts with
  | nil => exact absurd rfl some
  | cons first others =>
    cases insertions with
    | nil => rfl
    | cons insertion insertions => simp only [lead, woven, String.append_assoc]

theorem length_gaps (fragments : List Fragment) :
    (gaps dialect fragments).length = (values fragments).length + 1 := by
  induction fragments with
  | nil => rfl
  | cons fragment fragments step =>
    have some : gaps dialect fragments ≠ [] := List.ne_nil_of_length_pos (step ▸ Nat.succ_pos _)
    cases fragment with
    | bound value => rw [gaps, values_cons_bound, List.length_cons, List.length_cons, step]
    | words fixed => rw [gaps, length_lead _ some, step, values_cons_words]
    | name written => rw [gaps, length_lead _ some, step, values_cons_name]

theorem text_eq_woven (before : Nat) (fragments : List Fragment) :
    text dialect before fragments = woven (gaps dialect fragments)
      ((List.range' before (values fragments).length).map dialect.placeholder) := by
  induction fragments generalizing before with
  | nil => rfl
  | cons fragment fragments step =>
    have some : gaps dialect fragments ≠ [] :=
      List.ne_nil_of_length_pos (length_gaps fragments ▸ Nat.succ_pos _)
    cases fragment with
    | bound value =>
      simp only [text, gaps, values_cons_bound, List.length_cons, List.range'_succ, List.map_cons,
        woven, String.empty_append, step]
    | words fixed => rw [text, gaps, woven_lead _ some, step, values_cons_words]
    | name written => rw [text, gaps, woven_lead _ some, step, values_cons_name]

def erased : Fragment → Fragment
  | .words fixed => .words fixed
  | .name written => .name written
  | .bound _ => .bound (.int 0)

theorem text_map_erased (before : Nat) (fragments : List Fragment) :
    text dialect before (fragments.map erased) = text dialect before fragments := by
  induction fragments generalizing before with
  | nil => rfl
  | cons fragment fragments step =>
    cases fragment <;> simp only [List.map_cons, erased, text, step]

/-- Fragments that differ in bound values only make the same text. -/
theorem text_congr {fragments others : List Fragment}
    (same : fragments.map erased = others.map erased) (before : Nat) :
    text dialect before fragments = text dialect before others := by
  calc
    text dialect before fragments
      = text dialect before (fragments.map erased) := (text_map_erased before fragments).symm
    _ = text dialect before (others.map erased) := by rw [same]
    _ = text dialect before others := text_map_erased before others

/-- The fragments are the parts in their order, with words and names around them. -/
inductive Encloses : (fragments : List Fragment) → (parts : List (List Fragment)) → Prop
  | nil : Encloses [] []
  | fixed {fragment : Fragment} {fragments : List Fragment} {parts : List (List Fragment)} :
    fragment.value? = none → Encloses fragments parts → Encloses (fragment :: fragments) parts
  | part (first : List Fragment) {fragments : List Fragment} {parts : List (List Fragment)} :
    Encloses fragments parts → Encloses (first ++ fragments) (first :: parts)

namespace Encloses

variable {fragments later : List Fragment} {parts others : List (List Fragment)}

theorem words (fixed : String) (encloses : Encloses fragments parts) :
    Encloses (.words fixed :: fragments) parts := .fixed rfl encloses

theorem single (part : List Fragment) : Encloses part [part] := by
  have encloses := Encloses.nil.part part
  rwa [List.append_nil] at encloses

theorem append (encloses : Encloses fragments parts) (next : Encloses later others) :
    Encloses (fragments ++ later) (parts ++ others) := by
  induction encloses with
  | nil => exact next
  | fixed none _ step => exact step.fixed none
  | part first _ step =>
    rw [List.append_assoc, List.cons_append]
    exact step.part first

theorem of_values_eq_nil (none : values fragments = []) : Encloses fragments [] := by
  induction fragments with
  | nil => exact .nil
  | cons fragment fragments step =>
    cases fragment with
    | bound value => cases none
    | words text => exact .fixed rfl (step none)
    | name text => exact .fixed rfl (step none)

theorem parenthesized (needed : Bool) (encloses : Encloses fragments parts) :
    Encloses (Fragment.parenthesized needed fragments) parts := by
  cases needed with
  | false => exact encloses
  | true =>
    have closed := (encloses.append (words ")" .nil)).words "("
    rwa [List.append_nil] at closed

theorem values_eq (encloses : Encloses fragments parts) :
    values fragments = parts.flatMap values := by
  induction encloses with
  | nil => rfl
  | @fixed fragment fragments parts none _ step =>
    rw [← step, values, List.filterMap_cons_none none]
    rfl
  | part first _ step => rw [values_append, step, List.flatMap_cons]

end Encloses

end Fragment

variable {entity : Entity}

theorem values_selectFragments : Fragment.values (selectFragments entity) = [] := by
  have columns (column : entity.Column) : Fragment.values (columnFragments column) = [] := rfl
  simp [selectFragments, Fragment.values_separated, List.flatMap_map, columns]

end PeriodicalSearch.Sql
