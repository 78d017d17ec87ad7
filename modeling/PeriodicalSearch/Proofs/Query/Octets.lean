import Mathlib
import PeriodicalSearch.Query.Parser

/-! Octets of a text. The octets of a text are those of its parts, and the position of a place in a
text is the number of octets before it. -/

namespace PeriodicalSearch

namespace Text

@[simp] theorem utf8Length_nil : utf8Length [] = 0 := rfl

@[simp] theorem utf8Length_cons (c : Char) (text : List Char) :
    utf8Length (c :: text) = c.utf8Size + utf8Length text := rfl

@[simp] theorem utf8Length_append (text more : List Char) :
    utf8Length (text ++ more) = utf8Length text + utf8Length more := by
  induction text with
  | nil => rw [List.nil_append, utf8Length_nil, Nat.zero_add]
  | cons c text step => rw [List.cons_append, utf8Length_cons, step, utf8Length_cons, Nat.add_assoc]

theorem utf8Length_replicate (count : Nat) (c : Char) :
    utf8Length (List.replicate count c) = count * c.utf8Size := by
  induction count with
  | zero => rw [List.replicate_zero, utf8Length_nil, Nat.zero_mul]
  | succ count step =>
    rw [List.replicate_succ, utf8Length_cons, step, Nat.succ_mul, Nat.add_comm]

theorem utf8ByteSize_ofList (text : List Char) :
    (String.ofList text).utf8ByteSize = utf8Length text := by
  induction text with
  | nil => rfl
  | cons c text step =>
    rw [String.ofList_cons, String.utf8ByteSize_append, String.utf8ByteSize_singleton, step,
      utf8Length_cons]

theorem utf8ByteSize_eq (text : String) : text.utf8ByteSize = utf8Length text.toList := by
  rw [← utf8ByteSize_ofList, String.ofList_toList]

theorem length_le_utf8Length (text : List Char) : text.length ≤ utf8Length text := by
  induction text with
  | nil => exact Nat.le_refl 0
  | cons c text step =>
    have size := c.utf8Size_pos
    rw [List.length_cons, utf8Length_cons]
    omega

theorem utf8Length_of_ascii {text : List Char} (ascii : ∀ c ∈ text, c.toNat < 0x80) :
    utf8Length text = text.length := by
  induction text with
  | nil => rfl
  | cons c text step =>
    have first : c.utf8Size = 1 :=
      Char.utf8Size_eq_one_iff.2 (Nat.le_of_lt_succ (ascii c List.mem_cons_self))
    rw [utf8Length_cons, first, step fun d member => ascii d (List.mem_cons_of_mem c member),
      List.length_cons, Nat.add_comm]

theorem utf8Length_pos {text : List Char} (nonempty : text ≠ []) : 0 < utf8Length text := by
  cases text with
  | nil => exact absurd rfl nonempty
  | cons c text =>
    rw [utf8Length_cons]
    exact Nat.add_pos_left c.utf8Size_pos _

end Text

namespace Query

def Fault.moved (octets : Nat) : Fault → Fault
  | .tooLong => .tooLong
  | .unclosedQuote position => .unclosedQuote (octets + position)
  | .unexpected found position => .unexpected found (octets + position)
  | .unexpectedEnd position => .unexpectedEnd (octets + position)
  | .impossibleDate literal position => .impossibleDate literal (octets + position)

@[simp] theorem Fault.reason_moved (octets : Nat) (fault : Fault) :
    (fault.moved octets).reason = fault.reason := by
  cases fault <;> rfl

@[simp] theorem Fault.position?_moved (octets : Nat) (fault : Fault) :
    (fault.moved octets).position? = fault.position?.map (octets + ·) := by
  cases fault <;> rfl

theorem position_append {text place : List Char} (suffix : place <:+ text) (before : List Char) :
    position (before ++ text) place = Text.utf8Length before + position text place := by
  obtain ⟨between, rfl⟩ := suffix
  simp only [position, Text.utf8Length_append]
  omega

theorem grammarFault_append {before text place : List Char} (suffix : place <:+ text)
    (quotes : unclosedQuote (before ++ text) = unclosedQuote text)
    (inside : ∀ quote, unclosedQuote text = some quote → quote <:+ text) :
    grammarFault (before ++ text) place =
      (grammarFault text place).moved (Text.utf8Length before) := by
  unfold grammarFault
  rw [quotes]
  cases found : unclosedQuote text with
  | some quote => simp only [position_append (inside quote found), Fault.moved]
  | none => cases place <;> simp only [position_append suffix, Fault.moved]

end Query

end PeriodicalSearch
