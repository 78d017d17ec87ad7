import Mathlib.Tactic.Common
import PeriodicalSearch.Proofs.Sql.Placeholders
import PeriodicalSearch.Resource.Basic

/-! Placeholders by their marks. No other part of a statement has the mark of its dialect, unless
the name of the table or of a column has it. -/

namespace PeriodicalSearch

namespace Sql

def Dialect.mark : Dialect → Char
  | .postgres => '$'
  | .sqlite | .mysql => '?'

theorem Dialect.mark_notMem (dialect : Dialect) {text : String}
    (free : '$' ∉ text.toList ∧ '?' ∉ text.toList) : dialect.mark ∉ text.toList := by
  cases dialect with
  | postgres => exact free.1
  | _ => exact free.2

end Sql

structure Entity.IsFreeOf (entity : Entity) (mark : Char) : Prop where
  table : mark ∉ entity.name.toList
  column (column : entity.Column) : mark ∉ column.name.toList

theorem Resource.isFreeOf_mark (resource : Resource) (dialect : Sql.Dialect) :
    resource.entity.IsFreeOf dialect.mark := by
  constructor
  · apply dialect.mark_notMem
    cases resource <;> decide
  · intro column
    apply dialect.mark_notMem
    cases column <;> first | decide | (cases resource <;> decide)

namespace Sql

namespace Fragment

variable {dialect : Dialect}

def IsFreeOf (mark : Char) : Fragment → Prop
  | .words fixed => mark ∉ fixed.toList
  | .name written => mark ∉ written.toList
  | .bound _ => True

def AreFreeOf (mark : Char) (fragments : List Fragment) : Prop :=
  ∀ fragment ∈ fragments, fragment.IsFreeOf mark

theorem count_mark_placeholder (before : Nat) :
    (dialect.placeholder before).toList.count dialect.mark = 1 := by
  cases dialect with
  | postgres =>
    have digits : '$' ∉ Nat.toDigits 10 (before + 1) := fun mark =>
      absurd (Nat.isDigit_of_mem_toDigits (by decide) (by decide) mark) (by decide)
    simp [Dialect.placeholder, Dialect.mark, List.count_eq_zero_of_not_mem digits]
  | _ => simp [Dialect.placeholder, Dialect.mark]

theorem count_mark_quote {name : String} (free : dialect.mark ∉ name.toList) :
    (dialect.quote name).toList.count dialect.mark = 0 := by
  apply List.count_eq_zero_of_not_mem
  cases dialect <;> simpa [Dialect.quote, Dialect.mark] using free

theorem count_mark_text (before : Nat) {fragments : List Fragment}
    (free : AreFreeOf dialect.mark fragments) :
    (text dialect before fragments).toList.count dialect.mark = (values fragments).length := by
  induction fragments generalizing before with
  | nil => rfl
  | cons fragment fragments step =>
    obtain ⟨first, others⟩ := List.forall_mem_cons.1 free
    have later := fun before => step before others
    cases fragment with
    | bound value =>
      rw [text, String.toList_append, List.count_append, later, count_mark_placeholder,
        values_cons_bound, List.length_cons, Nat.add_comm]
    | words fixed =>
      rw [text, String.toList_append, List.count_append, later,
        List.count_eq_zero_of_not_mem first, values_cons_words, Nat.zero_add]
    | name written =>
      rw [text, String.toList_append, List.count_append, later, count_mark_quote first,
        values_cons_name, Nat.zero_add]

section

variable {mark : Char} {fragments later : List Fragment}

theorem AreFreeOf.cons {fragment : Fragment} (first : fragment.IsFreeOf mark)
    (others : AreFreeOf mark fragments) : AreFreeOf mark (fragment :: fragments) :=
  List.forall_mem_cons.2 ⟨first, others⟩

theorem areFreeOf_nil : AreFreeOf mark [] := fun _ none => (nomatch none)

theorem AreFreeOf.append (first : AreFreeOf mark fragments) (others : AreFreeOf mark later) :
    AreFreeOf mark (fragments ++ later) :=
  List.forall_mem_append.2 ⟨first, others⟩

end

theorem areFreeOf_words {text : String} (free : '$' ∉ text.toList ∧ '?' ∉ text.toList) :
    AreFreeOf dialect.mark [.words text] := areFreeOf_nil.cons (dialect.mark_notMem free)

theorem AreFreeOf.parenthesized (needed : Bool) {fragments : List Fragment}
    (free : AreFreeOf dialect.mark fragments) :
    AreFreeOf dialect.mark (parenthesized needed fragments) := by
  cases needed with
  | false => exact free
  | true => exact (areFreeOf_words (by decide)).append (free.append (areFreeOf_words (by decide)))

theorem AreFreeOf.separated {separator : String} (words : AreFreeOf dialect.mark [.words separator])
    {items : List (List Fragment)} (free : ∀ item ∈ items, AreFreeOf dialect.mark item) :
    AreFreeOf dialect.mark (separated separator items) := by
  induction items with
  | nil => exact areFreeOf_nil
  | cons item items step =>
    rw [List.forall_mem_cons] at free
    cases items with
    | nil => exact free.1
    | cons next items => exact free.1.append (words.append (step free.2))

end Fragment

variable {entity : Entity} {dialect : Dialect} (free : entity.IsFreeOf dialect.mark)
include free

open Fragment

theorem areFreeOf_columnFragments (column : entity.Column) :
    AreFreeOf dialect.mark (columnFragments column) :=
  .cons free.table ((areFreeOf_words (by decide)).append (areFreeOf_nil.cons (free.column column)))

theorem Scalar.areFreeOf_fragments (scalar : Scalar entity) :
    AreFreeOf dialect.mark scalar.fragments := by
  induction scalar with
  | column named => exact areFreeOf_columnFragments free named
  | bound value => exact areFreeOf_nil.cons trivial
  | textOf scalar step =>
    exact (areFreeOf_words (by decide)).append (step.append (areFreeOf_words (by decide)))
  | upper scalar step =>
    exact (areFreeOf_words (by decide)).append (step.append (areFreeOf_words (by decide)))
  | dayOf scalar step =>
    exact (areFreeOf_words (by decide)).append (step.append (areFreeOf_words (by decide)))

theorem Test.areFreeOf_fragments (test : Test entity) :
    AreFreeOf dialect.mark (test.fragments dialect) := by
  have scalar := Scalar.areFreeOf_fragments free
  cases test with
  | relation how left right =>
    have sign : AreFreeOf dialect.mark [.words (" " ++ how.sign ++ " ")] :=
      areFreeOf_words (by cases how <;> decide)
    exact (scalar left).append (sign.append (scalar right))
  | like subject pattern =>
    have escape : AreFreeOf dialect.mark [.words (" ESCAPE " ++ dialect.backslash)] :=
      areFreeOf_words (by cases dialect <;> decide)
    exact (scalar subject).append
      ((areFreeOf_words (by decide)).append ((scalar pattern).append escape))
  | between subject low high =>
    exact (scalar subject).append ((areFreeOf_words (by decide)).append
      ((scalar low).append ((areFreeOf_words (by decide)).append (scalar high))))
  | isNull subject null =>
    exact (scalar subject).append (areFreeOf_words (by cases null <;> decide))

theorem Expression.areFreeOf_fragments (condition : Expression entity) :
    AreFreeOf dialect.mark (condition.fragments dialect) := by
  induction condition with
  | test leaf => exact leaf.areFreeOf_fragments free
  | truth value => exact areFreeOf_words (by cases value <;> decide)
  | join outer left right leftFree rightFree =>
    have word : AreFreeOf dialect.mark [.words (" " ++ outer.word ++ " ")] :=
      areFreeOf_words (by cases outer <;> decide)
    exact (leftFree.parenthesized _).append (word.append (rightFree.parenthesized _))

theorem areFreeOf_selectFragments : AreFreeOf dialect.mark (selectFragments entity) := by
  have columns : ∀ item ∈ entity.columns.map columnFragments, AreFreeOf dialect.mark item := by
    intro item member
    obtain ⟨column, -, rfl⟩ := List.mem_map.1 member
    exact areFreeOf_columnFragments free column
  have comma : AreFreeOf dialect.mark [.words ", "] := areFreeOf_words (by decide)
  exact (areFreeOf_words (by decide)).append ((comma.separated columns).append
    ((areFreeOf_words (by decide)).append (areFreeOf_nil.cons free.table)))

end Sql

end PeriodicalSearch
