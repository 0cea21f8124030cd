/-!
# Decimal digits

The characters that are digits of a decimal number in one of the scripts that have digits. In each
script the ten digits follow one another, so the zeros alone name them all. The digits that Lean
knows are digits here too, with the value that they have there (`decimalDigit?_of_isDigit`).
-/

set_option autoImplicit false

namespace EntityAtlas.Text

/-- The code points of the zeros of all scripts. -/
def digitZeros : List Nat :=
  [0x30, 0x660, 0x6F0, 0x7C0, 0x966, 0x9E6, 0xA66, 0xAE6, 0xB66, 0xBE6, 0xC66, 0xCE6, 0xD66, 0xDE6,
   0xE50, 0xED0, 0xF20, 0x1040, 0x1090, 0x17E0, 0x1810, 0x1946, 0x19D0, 0x1A80, 0x1A90, 0x1B50,
   0x1BB0, 0x1C40, 0x1C50, 0xA620, 0xA8D0, 0xA900, 0xA9D0, 0xA9F0, 0xAA50, 0xABF0, 0xFF10, 0x104A0,
   0x10D30, 0x11066, 0x110F0, 0x11136, 0x111D0, 0x112F0, 0x11450, 0x114D0, 0x11650, 0x116C0,
   0x11730, 0x118E0, 0x11950, 0x11C50, 0x11D50, 0x11DA0, 0x16A60, 0x16AC0, 0x16B50, 0x1D7CE,
   0x1D7D8, 0x1D7E2, 0x1D7EC, 0x1D7F6, 0x1E140, 0x1E2F0, 0x1E950, 0x1FBF0]

/-- The digit that a code point is in the script with a certain first digit. -/
def digitFrom? (code first : Nat) : Option Nat :=
  if first ≤ code ∧ code < first + 10 then some (code - first) else none

/-- The digit that a character is in one of the scripts. -/
def decimalDigit? (char : Char) : Option Nat := digitZeros.findSome? (digitFrom? char.toNat)

/-- A character, or the digit from 0 to 9 that it stands for. -/
def plainDigit (char : Char) : Char :=
  match decimalDigit? char with
  | some digit => Char.ofNat (0x30 + digit)
  | none => char

/-- A digit from 0 to 9 has its place among them as its value. -/
theorem decimalDigit?_of_isDigit {char : Char} (digit : char.isDigit = true) :
    decimalDigit? char = some (char.toNat - 0x30) := by
  obtain ⟨low, high⟩ := (Bool.and_eq_true _ _).mp digit
  have low : 0x30 ≤ char.toNat := of_decide_eq_true low
  have high : char.toNat ≤ 0x39 := of_decide_eq_true high
  have first : digitFrom? char.toNat 0x30 = some (char.toNat - 0x30) :=
    if_pos ⟨low, Nat.lt_succ_of_le high⟩
  simp [decimalDigit?, digitZeros, first]

end EntityAtlas.Text
