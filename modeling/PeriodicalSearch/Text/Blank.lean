/-!
Blank characters and trimming. A character is blank when it has the White_Space property, so a
no-break space or an ideographic space separates words just as a plain space does.
-/
namespace PeriodicalSearch.Text

/-- The characters with the White_Space property. -/
def isBlank (c : Char) : Bool :=
  let code := c.toNat
  (0x09 ≤ code && code ≤ 0x0D) || code == 0x20 || code == 0x85 || code == 0xA0 || code == 0x1680 ||
    (0x2000 ≤ code && code ≤ 0x200A) || code == 0x2028 || code == 0x2029 || code == 0x202F ||
    code == 0x205F || code == 0x3000

def skipBlanks (text : List Char) : List Char := text.dropWhile isBlank

def trimBlanks (text : List Char) : List Char :=
  (skipBlanks (skipBlanks text).reverse).reverse

theorem length_skipBlanks_le (text : List Char) : (skipBlanks text).length ≤ text.length := by
  induction text with
  | nil => exact Nat.le_refl 0
  | cons c rest bound =>
    unfold skipBlanks at bound ⊢
    rw [List.dropWhile_cons]
    split
    · exact Nat.le_succ_of_le bound
    · exact Nat.le_refl _

end PeriodicalSearch.Text
