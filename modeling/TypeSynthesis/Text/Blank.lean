/-
TypeSynthesis.Text.Blank — blank text.

A character is blank when it has the Unicode property White_Space: 25 characters, among them the
line and paragraph separators. Zero-width characters (U+200B, U+2060, U+FEFF) are not blank.

* `isBlankChar`, `isBlank` — the property for a character, and for a whole text.
* `isBlank_eq_false_iff` — a text is not blank exactly when it holds a character that is not.
-/
namespace TypeSynthesis.Text

/-! ## The property -/

/-- The blank characters outside ASCII. -/
def wideBlanks : List Char := [
  '\u0085', '\u00a0', '\u1680', '\u2000', '\u2001', '\u2002', '\u2003', '\u2004', '\u2005', '\u2006',
  '\u2007', '\u2008', '\u2009', '\u200a', '\u2028', '\u2029', '\u202f', '\u205f', '\u3000']

/-- All blank characters, the ASCII ones first. -/
def blanks : List Char := ['\t', '\n', '\x0b', '\x0c', '\r', ' '] ++ wideBlanks

/-- A character with the property White_Space. -/
def isBlankChar (c : Char) : Bool := blanks.contains c

/-- A text without any character but blank ones; the empty text is blank. -/
def isBlank (s : String) : Bool := s.toList.all isBlankChar

/-! ## Facts -/

/-- A text is not blank exactly when some character of it is not. -/
theorem isBlank_eq_false_iff {s : String} :
    isBlank s = false ↔ ∃ c ∈ s.toList, isBlankChar c = false := by
  simp [isBlank]

example : isBlank " \u3000\n" = true ∧ isBlank "\u200b" = false ∧ isBlank "" = true := by decide

end TypeSynthesis.Text
