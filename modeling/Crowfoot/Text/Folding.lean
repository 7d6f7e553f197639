/-!
# Names up to the case of ASCII letters

Database names and the words of a diagram are compared without regard to the case of
ASCII letters. All other characters are compared as they are.
-/

namespace Crowfoot.Text

/-- A text with its ASCII letters in lower case. -/
def foldCase (s : String) : List Char := s.toList.map Char.toLower

/-- Two texts that differ at most in the case of ASCII letters. -/
def SameName (a b : String) : Prop := foldCase a = foldCase b

instance (a b : String) : Decidable (SameName a b) :=
  inferInstanceAs (Decidable (foldCase a = foldCase b))

end Crowfoot.Text
