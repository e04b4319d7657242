/-
TypeSynthesis.Text.Quoted — text between double quotes, with nothing invisible in it.

A quote, a backslash, the tab, the two line ends and NUL have short escapes. Every other character
that has no printed form, every one that extends the character before it and every filler is written by
its code point in braces. All else, the apostrophe included, stands for itself.

* `isFiller` — the letters that draw nothing.
* `escapeChar`, `quote` — the written form of a character and of a text.
-/
import TypeSynthesis.Text.Extending
import TypeSynthesis.Text.Hex

namespace TypeSynthesis.Text

/-! ## What does not show -/

/-- The Hangul fillers. They are the letters with the property Default_Ignorable_Code_Point; all other
code points with that property extend the one before them or have no printed form. -/
def fillers : List Char := ['\u115f', '\u1160', '\u3164', '\uffa0']

/-- A letter that draws nothing. -/
def isFiller (c : Char) : Bool := fillers.contains c

/-- The character cannot be seen on its own. -/
def isUnseen (c : Char) : Bool := isExtending c || isUnprintable c || isFiller c

/-! ## The written form -/

/-- A character by its code point: a backslash, the letter `u` and the small hexadecimal numeral in
braces. -/
def codePointEscape (c : Char) : String := "\\u\x7b" ++ lowerHex c.toNat ++ "\x7d"

/-- A character as it stands between the quotes. -/
def escapeChar (c : Char) : String :=
  match c with
  | '\x00' => "\\0"
  | '\t' => "\\t"
  | '\r' => "\\r"
  | '\n' => "\\n"
  | '\\' => "\\\\"
  | '"' => "\\\""
  | c => if isUnseen c then codePointEscape c else c.toString

/-- The text between double quotes. -/
def quote (s : String) : String := "\"" ++ String.join (s.toList.map escapeChar) ++ "\""

example : escapeChar '"' = "\\\"" ∧ escapeChar (Char.ofNat 39) = String.singleton (Char.ofNat 39) := by
  decide +kernel

end TypeSynthesis.Text
