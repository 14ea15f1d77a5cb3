/-!
The lines of a text.

* `Text.lines`: the lines of a text whose last line may or may not be ended by a line feed;
* `Text.firstLine`: the first of them.
-/

namespace Keystroke.Text

/-- A line without the carriage return that belongs to its end. -/
def chomp (line : List Char) : List Char :=
  if line.getLast? = some '\r' then line.dropLast else line

/-- The lines of a text that ends with a line feed of its own, the last one included. -/
def linesOf : List Char → List Char → List (List Char)
  | line, [] => [chomp line.reverse]
  | line, c :: rest =>
      if c = '\n' then chomp line.reverse :: linesOf [] rest else linesOf (c :: line) rest

/-- The lines of a text. -/
def lines (s : String) : List String :=
  (linesOf [] s.toList).map String.ofList

/-- The first line of a text. -/
def firstLine (s : String) : String :=
  (lines s).headD ""

end Keystroke.Text
