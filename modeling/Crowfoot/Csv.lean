import Crowfoot.Dataset.Basic

/-!
# Tables as comma-separated text

A record is a line of fields with commas between them. A field with a comma, a quote or
a line end in it stands in quotes, its own quotes written twice; so does an empty field
that is alone in its record, which would be no record at all otherwise.
-/

namespace Crowfoot.Csv

/-- The characters that a field without quotes cannot hold. -/
def isSpecial (c : Char) : Bool := c = ',' || c = '"' || c = '\r' || c = '\n'

/-- A field in quotes. -/
def quoted (field : List Char) : List Char :=
  '"' :: field.flatMap (fun c => if c = '"' then ['"', '"'] else [c]) ++ ['"']

/-- A field among others. -/
def encodeField (field : List Char) : List Char :=
  if field.any isSpecial then quoted field else field

/-- The fields of a record with commas between them. -/
def encodeFields : List (List Char) → List Char
  | [] => []
  | [field] => encodeField field
  | field :: rest => encodeField field ++ ',' :: encodeFields rest

/-- A record, with a line feed at its end. -/
def encodeRecord (fields : List (List Char)) : List Char :=
  (if fields = [[]] then quoted [] else encodeFields fields) ++ ['\n']

/-- A record with a number of fields other than that of the first record. -/
structure UnequalLengths where
  length : Nat
  expected : Nat
  deriving DecidableEq, Repr

/-- The error in words. -/
def UnequalLengths.message (e : UnequalLengths) : String :=
  "CSV error: CSV error: found record with " ++ e.length.repr
    ++ " fields, but the previous record has " ++ e.expected.repr ++ " fields"

/-- The row of a table as a record. -/
def rowFields (row : List Value) : List (List Char) := row.map fun v => v.display.toList

/-- The records of the rows, each of which must have that many fields. -/
def encodeRows (columns : Nat) : List (List Value) → Except UnequalLengths (List Char)
  | [] => return []
  | row :: rest =>
    if row.length = columns then
      return encodeRecord (rowFields row) ++ (← encodeRows columns rest)
    else .error ⟨row.length, columns⟩

/-- A table with its header. Without columns there is an empty line for header and rows. -/
def render (t : Table) : Except UnequalLengths String :=
  -- a record without fields has no line of its own, so it is written here
  if t.columns.isEmpty then
    return String.ofList (List.replicate (t.rows.length + 1) '\n')
  else
    return String.ofList (encodeRecord (t.columns.map String.toList)
      ++ (← encodeRows t.columns.length t.rows))

/-- The name of the file for a table. -/
def fileName (t : Table) : String := t.name ++ ".csv"

end Crowfoot.Csv
