/-
TypeSynthesis.Flags — words of named bits.

A family names some words of 32 bits, its flags. Flags may overlap, and one may be the zero word. A word is
taken apart by walking the flags in the order of their declaration: a flag is named when the whole word
contains it and it meets the bits that no earlier flag has taken.

Models the flag words that `TypeAttributes` and `MethodAccessFlags` are made of.

* `FlagFamily.checked?`, `FlagFamily.truncate` — words without unknown bits.
* `FlagFamily.takeApart` — the named flags and the bits that are left over.
-/
import TypeSynthesis.Text.Hex

namespace TypeSynthesis

/-- A word of 32 bits. -/
abbrev Word := UInt32

namespace Word

/-- Every bit of the second word is in the first. -/
def contains (a b : Word) : Bool := a &&& b == b

/-- The words share a bit. -/
def meets (a b : Word) : Bool := a &&& b != 0

/-- The bits of the first word that are not in the second. -/
def without (a b : Word) : Word := a &&& ~~~b

end Word

/-- A family of flags under one title, in the order of declaration. -/
structure FlagFamily where
  title : String
  flags : List (String × Word)
  deriving Repr

namespace FlagFamily

variable (f : FlagFamily)

/-- The bits of all flags. -/
def all : Word := f.flags.foldl (fun w flag => w ||| flag.2) 0

/-- The word without its unknown bits. -/
def truncate (w : Word) : Word := w &&& f.all

/-- The word, if it has no unknown bits. -/
def checked? (w : Word) : Option Word := if f.truncate w = w then some w else none

/-- All known bits that the word has not. -/
def complement (w : Word) : Word := f.truncate (~~~w)

/-- One step of taking a word apart: the flag is named when the whole word contains it and it meets the
bits that are left. -/
def takeFlag (whole : Word) (taken : List (String × Word) × Word) (flag : String × Word) :
    List (String × Word) × Word :=
  if Word.contains whole flag.2 && Word.meets taken.2 flag.2 then
    (taken.1 ++ [flag], Word.without taken.2 flag.2)
  else taken

/-- The flags of a word in order, and the bits left over. -/
def takeApart (w : Word) : List (String × Word) × Word := f.flags.foldl (takeFlag w) ([], w)

/-- The names of the flags of a word. -/
def names (w : Word) : List String := (f.takeApart w).1.map (·.1)

/-- The word as it is inspected: names joined by bars, bits left over as a numeral at the end. -/
def inspected (w : Word) : String :=
  let (named, left) := f.takeApart w
  let numeral := "0x" ++ Text.lowerHex left.toNat
  let parts := named.map (·.1) ++ if left = 0 then [] else [numeral]
  f.title ++ "(" ++ (if parts.isEmpty then "0x0" else " | ".intercalate parts) ++ ")"

end FlagFamily

end TypeSynthesis
