/-
TypeSynthesis.Text.Hex — hexadecimal numerals.

* `lowerHex` — small digits, no leading zero.
* `upperHex` — capital digits, filled with zeros on the left up to a width; a longer numeral stays whole.
-/
namespace TypeSynthesis.Text

/-- The numeral with small digits. -/
def lowerHex (n : Nat) : String := String.ofList (Nat.toDigits 16 n)

/-- The digits with capitals, zeros on the left up to `width`. -/
def upperHexDigits (width n : Nat) : List Char :=
  ((Nat.toDigits 16 n).map Char.toUpper).leftpad width '0'

/-- The numeral with capital digits, zeros on the left up to `width`. -/
def upperHex (width n : Nat) : String := String.ofList (upperHexDigits width n)

example : upperHexDigits 4 10 = ['0', '0', '0', 'A'] := by decide
example : upperHexDigits 4 0x10000 = ['1', '0', '0', '0', '0'] := by decide

end TypeSynthesis.Text
