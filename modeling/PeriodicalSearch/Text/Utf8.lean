/-!
UTF-8: how many octets a text takes, and the reading of octets that may not be well formed. Where
no character can be read, the longest run that could have begun one becomes a single replacement
character.
-/
namespace PeriodicalSearch.Text

def utf8Length (text : List Char) : Nat := text.foldr (fun c length => c.utf8Size + length) 0

def utf8Octets (text : List Char) : List UInt8 := (String.ofList text).toUTF8.toList

def replacementCharacter : Char := '\uFFFD'

/-- What a first octet announces: how many octets follow, its own bits, and the bounds of the
second octet. -/
structure LeadOctet where
  trailing : Nat
  bits : Nat
  low : Nat
  high : Nat

def leadOctet? (octet : Nat) : Option LeadOctet :=
  if 0xC2 ≤ octet ∧ octet ≤ 0xDF then some ⟨1, octet - 0xC0, 0x80, 0xBF⟩
  else if octet = 0xE0 then some ⟨2, 0, 0xA0, 0xBF⟩
  else if octet = 0xED then some ⟨2, 0xD, 0x80, 0x9F⟩
  else if 0xE1 ≤ octet ∧ octet ≤ 0xEF then some ⟨2, octet - 0xE0, 0x80, 0xBF⟩
  else if octet = 0xF0 then some ⟨3, 0, 0x90, 0xBF⟩
  else if 0xF1 ≤ octet ∧ octet ≤ 0xF3 then some ⟨3, octet - 0xF0, 0x80, 0xBF⟩
  else if octet = 0xF4 then some ⟨3, 4, 0x80, 0x8F⟩
  else none

/-- The character whose remaining octets, `trailing` of them, come next, given the bits read so
far; the replacement character as soon as an octet does not continue it. -/
def continueCharacter : (trailing bits low high : Nat) → List UInt8 → Char × List UInt8
  | 0, bits, _, _, octets => (Char.ofNat bits, octets)
  | _ + 1, _, _, _, [] => (replacementCharacter, [])
  | trailing + 1, bits, low, high, octet :: octets =>
    if low ≤ octet.toNat ∧ octet.toNat ≤ high then
      continueCharacter trailing (bits * 64 + (octet.toNat - 0x80)) 0x80 0xBF octets
    else
      (replacementCharacter, octet :: octets)

theorem length_continueCharacter_le (trailing bits low high : Nat) (octets : List UInt8) :
    (continueCharacter trailing bits low high octets).2.length ≤ octets.length := by
  induction octets generalizing trailing bits low high with
  | nil => cases trailing <;> exact Nat.le_refl 0
  | cons octet octets bound =>
    cases trailing with
    | zero => exact Nat.le_refl _
    | succ trailing =>
      unfold continueCharacter
      split
      · exact Nat.le_succ_of_le (bound ..)
      · exact Nat.le_refl _

def readCharacter (octet : UInt8) (octets : List UInt8) : Char × List UInt8 :=
  if octet.toNat < 0x80 then
    (Char.ofNat octet.toNat, octets)
  else
    match leadOctet? octet.toNat with
    | some lead => continueCharacter lead.trailing lead.bits lead.low lead.high octets
    | none => (replacementCharacter, octets)

theorem length_readCharacter_le (octet : UInt8) (octets : List UInt8) :
    (readCharacter octet octets).2.length ≤ octets.length := by
  unfold readCharacter
  split
  · exact Nat.le_refl _
  · split
    · exact length_continueCharacter_le ..
    · exact Nat.le_refl _

def readUtf8 : List UInt8 → List Char
  | [] => []
  | octet :: octets =>
    let step := readCharacter octet octets
    step.1 :: readUtf8 step.2
termination_by octets => octets.length
decreasing_by exact Nat.lt_succ_of_le (length_readCharacter_le octet octets)

end PeriodicalSearch.Text
