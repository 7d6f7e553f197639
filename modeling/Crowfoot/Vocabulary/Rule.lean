import Crowfoot.Dataset.Basic
import Crowfoot.Text.Numeral
import Crowfoot.Vocabulary.Abbreviation
import Crowfoot.Vocabulary.Words

/-!
# Rules for values

Some attributes have values that are made up by a rule: numbers in a range, identifiers
of a certain form, and values that agree with others in the row or with earlier tables.
-/

namespace Crowfoot

open Draw Text

/-- A rule by which a value is made. -/
inductive Rule
  /-- The abbreviation of one of the names. -/
  | abbreviation (names : List String)
  /-- A whole number in a range, times a factor. -/
  | number (low high factor : Int)
  | identifier
  | orcid
  | issn
  | isbn
  | doi
  | registry
  /-- A page at most thirty pages after the row's first page. -/
  | lastPage
  /-- The name of the row's person, or of any person. -/
  | authorName
  /-- The key of any person. -/
  | advisor
  /-- The key of a person who is not the row's advisor. -/
  | student
  /-- The code of the row's country. -/
  | countryCode
  deriving DecidableEq, Repr

namespace Rule

variable {γ : Type} [Generator γ]

/-- One of the words; nothing if there are none. -/
def word (words : List String) : Draw γ String := return (← choose words).getD ""

/-- A number in a range with its digits, with zeros in front up to the width. -/
def digits (width low high : Nat) : Draw γ String := return padded width (← between32 low high)

/-- The key of one of the pool's members. -/
def keyFrom (pool : List Int) : Draw γ (Option Value) := return (← choose pool).map .int

/-- The number in a column of the row. -/
def intIn? (row : RowContext) (column : String) : Option Int := (row.get? column).bind Value.int?

/-- A page after the row's first page, or any page but the first. -/
def lastPageOf (row : RowContext) : Draw γ Value := do
  match intIn? row "page_start" with
  | some start => return .int (start + (← between 1 30))
  | none => return .int (← between 2 400)

/-- The place of the row's person in the table of persons, whose keys count from one. -/
def personAt? (row : RowContext) (person : Table) : Option Nat := do
  let id ← intIn? row "person_id"
  guard (1 ≤ id ∧ id ≤ person.rows.length)
  return id.toNat - 1

/-- The place of the row's person, or any place in the table of persons. -/
def personIndex (row : RowContext) (person : Table) : Draw γ Nat :=
  match personAt? row person with
  | some i => return i
  | none => below32 person.rows.length

/-- The first and the last name of the row's person, or of any person. -/
def personName (row : RowContext) : Draw γ (Option String) := do
  match row.table? "Person" with
  | none => return none
  | some person =>
    if person.rows.isEmpty then return none
    else
      let i ← personIndex row person
      match person.cell? i "firstname", person.cell? i "lastname" with
      | some first, some last => return some (first.display ++ " " ++ last.display)
      | _, _ => return none

/-- The name of a person, made up if there is none. -/
def authorNameOf (row : RowContext) : Draw γ Value := do
  match ← personName row with
  | some name => return .text name
  | none => return .text ((← word Words.firstNames) ++ " " ++ (← word Words.lastNames))

/-- The key of a person who is not the row's advisor, if there is one. -/
def studentOf (row : RowContext) : Draw γ (Option Value) :=
  let pool := row.keysOf "Person"
  let others := pool.filter fun key => some key ≠ intIn? row "advisor_person_id"
  keyFrom (if others.isEmpty then pool else others)

/-- The code of the row's country, or of any country if the row names none. -/
def countryCodeOf (row : RowContext) : Draw γ (Option Value) := do
  let named :=
    match row.get? "name" with
    | some (.text name) => Words.countryNames.idxOf? name
    | _ => none
  let index ←
    match named with
    | some i => pure i
    | none => below32 Words.countryCodes.length
  return Words.countryCodes[index]?.map .text

/-- That many random characters of the registry's alphabet. -/
def registryCode : Nat → Draw γ (List Char)
  | 0 => return []
  | n + 1 => do
    let c ← choose Words.registryCharacters
    return c.toList ++ (← registryCode n)

/-- The value that a rule makes for a row. -/
def value (row : RowContext) : Rule → Draw γ (Option Value)
  | abbreviation names => return some (.text (abbreviate (← word names)))
  | number low high factor => return some (.int ((← between low high) * factor))
  | identifier => return some (.text ("ID-" ++ (← digits 5 0 99999)))
  | orcid => do
    let a ← digits 4 0 9999
    let b ← digits 4 0 9999
    let c ← digits 4 0 9999
    let d ← digits 4 0 9999
    return some (.text (a ++ "-" ++ b ++ "-" ++ c ++ "-" ++ d))
  | issn => do
    let a ← digits 4 1000 9999
    let b ← digits 4 1000 9999
    return some (.text (a ++ "-" ++ b))
  | isbn => return some (.text (← between 1000000000 9999999999).repr)
  | doi => do
    let a ← digits 0 100 999
    let b ← digits 0 1000 9999
    return some (.text ("10." ++ a ++ "/" ++ b))
  | registry => return some (.text ("https://ror.org/" ++ String.ofList (← registryCode 9)))
  | lastPage => return some (← lastPageOf row)
  | authorName => return some (← authorNameOf row)
  | advisor => keyFrom (row.keysOf "Person")
  | student => studentOf row
  | countryCode => countryCodeOf row

end Rule

end Crowfoot
