/-!
# The lines of a text

A line ends with a line feed, and one carriage return before it belongs to the end
of the line.  Characters behind the last line feed are a line too, and a carriage
return at their end is theirs.

## Main definitions

* `lines` — the lines of a text, without their ends.
* `firstLine` — the text up to its first line feed.
-/

namespace Retrograde.Text

/-- A line without the carriage return before its line feed. -/
def dropReturn (line : List Char) : List Char :=
  if line.getLast? = some '\r' then line.dropLast else line

/-- The lines of a text; `line` are the characters of the first one so far, the last
of them first. -/
def linesFrom (line : List Char) : List Char → List (List Char)
  | [] => if line.isEmpty then [] else [line.reverse]
  | c :: cs =>
    if c = '\n' then dropReturn line.reverse :: linesFrom [] cs else linesFrom (c :: line) cs

/-- The lines of a text, without their ends. -/
def lines (s : String) : List String := (linesFrom [] s.toList).map String.ofList

/-- What stands before the first line feed of a text. -/
def firstLine (s : String) : String := String.ofList (s.toList.takeWhile (· != '\n'))

end Retrograde.Text
