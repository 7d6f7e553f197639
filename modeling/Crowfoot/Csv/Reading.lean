import Crowfoot.Csv

/-!
# Reading comma-separated text

A text is read character by character. A field without quotes ends at a comma or a line feed and
has neither a quote nor a carriage return in it. A field in quotes ends at a quote that is not
followed by another one; two of them stand for a quote that belongs to the field. A line feed ends
the record, and the last record need not have one. What an empty line stands for is left open: some
readers take it for a record with one empty field, others for none.
-/

namespace Crowfoot.Csv

/-- Where the reader is in a field. -/
inductive Place
  /-- Nothing of the field has been read. -/
  | start
  /-- The field has no quotes around it. -/
  | bare
  /-- The quote of the field has been opened. -/
  | inside
  /-- A quote has come, which closes the field if no other one follows. -/
  | closed
  deriving DecidableEq, Repr

/-- What has been read. -/
structure Scan where
  place : Place
  /-- The characters of the field so far. -/
  field : List Char
  /-- The fields of the record that stand before it. -/
  fields : List String
  records : List (List String)
  deriving DecidableEq, Repr

namespace Scan

/-- The reader is at the beginning of a record. -/
def atRecord (records : List (List String)) : Scan := ⟨.start, [], [], records⟩

/-- The field goes on with a character. -/
def add (s : Scan) (place : Place) (c : Char) : Scan :=
  { s with place, field := s.field ++ [c] }

/-- A comma ends the field. -/
def endField (s : Scan) : Scan := ⟨.start, [], s.fields ++ [String.ofList s.field], s.records⟩

/-- A line feed ends the field and the record. -/
def endRecord (s : Scan) : Scan := atRecord (s.records ++ [s.fields ++ [String.ofList s.field]])

/-- Nothing of the record has been read. -/
def isFresh (s : Scan) : Bool := s.place = .start && s.fields.isEmpty

/-- A comma or a line feed behind a field. -/
def delimit (s : Scan) (c : Char) : Option Scan :=
  if c = ',' then some s.endField else if c = '\n' then some s.endRecord else none

/-- A character outside of quotes. -/
def plain (s : Scan) (c : Char) : Option Scan :=
  if isSpecial c then s.delimit c else some (s.add .bare c)

/-- The next character, where an empty line stands for the records `blank`. -/
def step (blank : List (List String)) (s : Scan) (c : Char) : Option Scan :=
  match s.place with
  | .inside => if c = '"' then some { s with place := .closed } else some (s.add .inside c)
  | .closed => if c = '"' then some (s.add .inside c) else s.delimit c
  | .bare => s.plain c
  | .start =>
    if c = '"' then some { s with place := .inside }
    else if c = '\n' && s.fields.isEmpty then some (atRecord (s.records ++ blank))
    else s.plain c

/-- The characters of a text, one after the other. -/
def run (blank : List (List String)) (s : Scan) (cs : List Char) : Option Scan :=
  cs.foldlM (step blank) s

/-- The records when the text is at its end. An open quote has no end. -/
def finish (s : Scan) : Option (List (List String)) :=
  if s.isFresh then some s.records
  else if s.place = .inside then none
  else some s.endRecord.records

end Scan

/-- The records of a text, where an empty line stands for the records `blank`. -/
def records? (blank : List (List String)) (text : String) : Option (List (List String)) := do
  (← (Scan.atRecord []).run blank text.toList).finish

end Crowfoot.Csv
