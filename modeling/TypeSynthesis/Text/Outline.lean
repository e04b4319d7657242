/-
TypeSynthesis.Text.Outline — the outline of a value, for a person who inspects it.

An outline is a tree: a leaf of finished text, a record with named fields, a named tuple, a list. It
has two written forms.

* `Outline.inline` — on one line: `Name { a: 1, b: [x, y] }`.
* `Outline.indented` — a field or item a line, each with a comma after it and four blanks further in.
  An empty list stays on its line. A leaf that holds line feeds is moved in as a whole, so every one of
  its lines starts at the column of its field.

A record whose fields are not all shown ends in two dots, in both forms.
-/
import TypeSynthesis.Text.Quoted

namespace TypeSynthesis.Text

/-- A value as it is inspected. A record that is not `closed` has fields that are not shown. -/
inductive Outline where
  | leaf (text : String)
  | record (name : String) (fields : List (String × Outline)) (closed : Bool)
  | tuple (name : String) (items : List Outline)
  | list (items : List Outline)

namespace Outline

/-! ## Building outlines -/

/-- Text in quotes. -/
def quoted (s : String) : Outline := .leaf (quote s)

/-- A truth value. -/
def bool (b : Bool) : Outline := .leaf (if b then "true" else "false")

/-- A number. -/
def nat (n : Nat) : Outline := .leaf (toString n)

/-- A value that may be absent. -/
def option : Option Outline → Outline
  | none => .leaf "None"
  | some o => .tuple "Some" [o]

/-! ## One line -/

mutual

/-- The outline on one line. -/
def inline : Outline → String
  | .leaf text => text
  | .record name [] closed => name ++ (if closed then "" else " \x7b .. \x7d")
  | .record name fields closed =>
    name ++ " \x7b " ++ ", ".intercalate (inlineFields fields) ++ (if closed then " \x7d" else ", .. \x7d")
  | .tuple name items => name ++ "(" ++ ", ".intercalate (inlineItems items) ++ ")"
  | .list items => "[" ++ ", ".intercalate (inlineItems items) ++ "]"

/-- Each field on one line. -/
def inlineFields : List (String × Outline) → List String
  | [] => []
  | (name, value) :: rest => (name ++ ": " ++ value.inline) :: inlineFields rest

/-- Each item on one line. -/
def inlineItems : List Outline → List String
  | [] => []
  | item :: rest => item.inline :: inlineItems rest

end

/-! ## A field a line -/

/-- Four blanks in front of every line of the text. -/
def shift (s : String) : String :=
  "    " ++ String.ofList (s.toList.flatMap fun c => if c = '\n' then "\n    ".toList else [c])

/-- The entries, each moved in and on lines of its own with a comma behind it. -/
def block (entries : List String) : String :=
  String.join (entries.map fun e => shift (e ++ ",") ++ "\n")

mutual

/-- The outline with a field or item a line. -/
def indented : Outline → String
  | .leaf text => text
  | .record name [] closed => name ++ (if closed then "" else " \x7b .. \x7d")
  | .record name fields closed =>
    name ++ " \x7b\n" ++ block (indentedFields fields) ++ (if closed then "" else "    ..\n") ++ "\x7d"
  | .tuple name items => name ++ "(\n" ++ block (indentedItems items) ++ ")"
  | .list [] => "[]"
  | .list items => "[\n" ++ block (indentedItems items) ++ "]"

/-- Each field with its value indented. -/
def indentedFields : List (String × Outline) → List String
  | [] => []
  | (name, value) :: rest => (name ++ ": " ++ value.indented) :: indentedFields rest

/-- Each item indented. -/
def indentedItems : List Outline → List String
  | [] => []
  | item :: rest => item.indented :: indentedItems rest

end

end Outline

end TypeSynthesis.Text
