/-!
# Ranges of code points

A class of characters is given as a list of ranges in ascending order, the form in
which the Unicode character database lists a property.
-/

namespace Crowfoot.Text

/-- The code points from `first` to `last`, both included. -/
structure CodeRange where
  first : Nat
  last : Nat

namespace CodeRange

/-- A code lies in one of the ranges. The search ends at the first range above the code. -/
def covers : List CodeRange → Nat → Bool
  | [], _ => false
  | r :: rest, code => r.first ≤ code && (code ≤ r.last || covers rest code)

end CodeRange

end Crowfoot.Text
