import Crowfoot.Dataset.Basic
import Crowfoot.Dataset.Calendar

/-!
# Values by type

The values of attributes for which there is no better source.
-/

namespace Crowfoot

open Draw

/-- A value for an attribute, by its type alone. -/
def Attribute.fallback {γ : Type} [Generator γ] (a : Attribute) : Draw γ Value :=
  match a.type with
  | .number => return .int (← between 1 100)
  | .boolean => return .int (← between 0 1)
  | .datetime => return .text (Calendar.date (← between32 1 365))
  | .text | .other _ => return .text (a.name ++ "_" ++ (← between32 1 100).repr)

end Crowfoot
