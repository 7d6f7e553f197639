import Crowfoot.Text.Blank
import Crowfoot.Text.Uppercase

/-!
# Abbreviations

A name of several words is abbreviated to the initials of its words, any other name to
its first characters.
-/

namespace Crowfoot

open Text

/-- What separates the words of a name. -/
def isWordBreak (c : Char) : Bool := isBlank c || c = '_' || c = '-'

/-- The words of a name: the longest runs of characters that separate no words. -/
def wordsOf (name : List Char) : List (List Char) :=
  (name.splitOnP isWordBreak).filter (!·.isEmpty)

/--
The abbreviation of a name: at most six characters of the initials in upper case if it
has at least two words, and otherwise the first four characters of the name in upper
case.
-/
def abbreviate (name : String) : String :=
  let words := wordsOf name.toList
  String.ofList <|
    if words.length ≤ 1 then upper (name.toList.take 4)
    else (upper (words.filterMap List.head?)).take 6

end Crowfoot
