import Crowfoot.Text.Numeral

/-!
# Days of a leap year

Dates are given by the number of the day within the year 2024, counted from one.
-/

namespace Crowfoot.Calendar

open Text

/-- The year of all generated dates. -/
def year : Nat := 2024

/-- The days of the months of that year. -/
def monthLengths : List Nat := [31, 29, 31, 30, 31, 30, 31, 31, 30, 31, 30, 31]

/-- The month and the day of the month, the first of the lengths being that of `month`. -/
def monthDay? (month : Nat) : List Nat → Nat → Option (Nat × Nat)
  | [], _ => none
  | length :: rest, day =>
    if day ≤ length then some (month, day) else monthDay? (month + 1) rest (day - length)

/-- The date of a day of the year: year, month and day of the month. -/
def date (day : Nat) : String :=
  match monthDay? 1 monthLengths day with
  | some (month, day) => padded 4 year ++ "-" ++ padded 2 month ++ "-" ++ padded 2 day
  | none => ""

end Crowfoot.Calendar
