/-!
# Lines

A line ends at a line feed or at the end of the text; a carriage return right before
the line feed belongs to the line's end. A text that ends with a line feed has no
empty line after it.
-/

namespace Crowfoot.Text

/-- A line without the carriage return it may end with. -/
def dropReturn (line : List Char) : List Char :=
  if line.getLast? = some '\r' then line.dropLast else line

/-- The lines of a text that begins with the characters of `current`, taken in reverse. -/
def linesAfter (current : List Char) : List Char → List (List Char)
  | [] => if current.isEmpty then [] else [current.reverse]
  | '\n' :: rest => dropReturn current.reverse :: linesAfter [] rest
  | c :: rest => linesAfter (c :: current) rest

/-- The lines of a text, without their ends. -/
def lines (cs : List Char) : List (List Char) := linesAfter [] cs

end Crowfoot.Text
