/-
TypeSynthesis.Text.Line — the lines of a text.

A line feed ends a line and belongs to it; a carriage return right before the feed goes with it. Text
after the last feed is a line only when it is not empty.

* `lines` — the lines without their ends.
-/
namespace TypeSynthesis.Text

/-- The line without a carriage return at its end. -/
def dropReturn (line : String) : String :=
  if line.endsWith "\r" then (line.dropEnd 1).toString else line

/-- The lines of the text, each without its end. -/
def lines (s : String) : List String :=
  match (s.splitOn "\n").reverse with
  | [] => []
  | last :: closed =>
    let ended := (closed.map dropReturn).reverse
    if last.isEmpty then ended else ended ++ [last]

end TypeSynthesis.Text
