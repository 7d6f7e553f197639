/-!
# Elements

A document is a tree of elements with attributes and without text. Each tag stands on a
line of its own, two spaces further in than the element around it. The values of
attributes stand between double quotes and are escaped, so they end at the next quote.
-/

namespace Crowfoot.Xmi

/-- An element, its attributes in order. -/
inductive Element
  /-- An element that is opened and closed by one tag. -/
  | empty (tag : String) (attributes : List (String × String))
  /-- An element that is opened, holds elements and is closed. -/
  | nested (tag : String) (attributes : List (String × String)) (children : List Element)
  deriving Repr

/-- A character within the value of an attribute. -/
def escapeChar : Char → String
  | '<' => "&lt;"
  | '>' => "&gt;"
  | '&' => "&amp;"
  | '\x27' => "&apos;"
  | '"' => "&quot;"
  | c => String.singleton c

/-- A text as the value of an attribute. -/
def escape (s : String) : String := String.join (s.toList.map escapeChar)

/-- A name and its value, with a space in front. -/
def renderAttribute (a : String × String) : String := " " ++ a.1 ++ "=\"" ++ escape a.2 ++ "\""

/-- The inner part of an opening tag. -/
def renderTag (tag : String) (attributes : List (String × String)) : String :=
  tag ++ String.join (attributes.map renderAttribute)

/-- A line that far inside the tree. -/
def indented (depth : Nat) (line : String) : String :=
  String.ofList (List.replicate (2 * depth) ' ') ++ line

namespace Element

mutual

/-- The lines of an element that far inside the tree. -/
def lines (depth : Nat) : Element → List String
  | empty tag attributes => [indented depth ("<" ++ renderTag tag attributes ++ "/>")]
  | nested tag attributes children =>
    indented depth ("<" ++ renderTag tag attributes ++ ">")
      :: linesOfAll (depth + 1) children ++ [indented depth ("</" ++ tag ++ ">")]

/-- The lines of neighbouring elements. -/
def linesOfAll (depth : Nat) : List Element → List String
  | [] => []
  | e :: rest => lines depth e ++ linesOfAll depth rest

end

/-- The text of a document with that element. No line feed follows its last line. -/
def render (e : Element) : String :=
  "\n".intercalate ("<?xml version=\"1.0\" encoding=\"UTF-8\"?>" :: e.lines 0)

end Element

end Crowfoot.Xmi
