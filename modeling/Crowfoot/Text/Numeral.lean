/-!
# Numerals

Decimal numerals of a least width, and hexadecimal numerals.
-/

namespace Crowfoot.Text

/-- The decimal digits of a number, with zeros in front up to the width. -/
def padded (width n : Nat) : String :=
  String.ofList ((Nat.toDigits 10 n).leftpad width '0')

/-- The hexadecimal digits of a number, in lower case. -/
def hexadecimal (n : Nat) : String := String.ofList (Nat.toDigits 16 n)

end Crowfoot.Text
