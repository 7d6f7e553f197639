import Crowfoot.Diagnostic
import Crowfoot.Diagram.Line
import Crowfoot.Text.Lines

/-!
# Reading a diagram

A diagram is read line by line. At any time at most one entity's block is open and
collects attributes; a block ends where it is closed, where the next one opens, or at
the end of the text. Relationships count wherever they stand. Lines of no known form
are passed over, so every text has a reading.

What is noted on the way depends on the state before each line and has no influence
on it.
-/

namespace Crowfoot

open Text

/-- What has been read so far. -/
structure Reading where
  entities : Named Entity
  relationships : List Relationship
  /-- The entity whose block is open. -/
  block : Option Entity

namespace Reading

/-- Nothing has been read. -/
def start : Reading := ⟨∅, [], none⟩

/-- The open block, if there is one, becomes an entity and replaces one of its name. -/
def closeBlock (r : Reading) : Reading :=
  match r.block with
  | some e => { r with entities := r.entities.insert e.name e.keyed, block := none }
  | none => r

/-- The reading after one more line. -/
def step (r : Reading) (number : Nat) : Line → Reading
  | .entityOpen name => { r.closeBlock with block := some (.opened name) }
  | .entityClose => r.closeBlock
  | .attr a =>
    { r with block := r.block.map fun e => { e with attributes := e.attributes ++ [a] } }
  | .relationship left connector right label =>
    { r with relationships := r.relationships ++ [⟨left, right, connector, label, number⟩] }
  | .blank | .separator | .unrecognized => r

/-- The reading after the lines, of which the first has that number. -/
def steps (r : Reading) (number : Nat) : List Line → Reading
  | [] => r
  | line :: rest => (r.step number line).steps (number + 1) rest

/-- What has been read, once there are no more lines. -/
def diagram (r : Reading) : Diagram := ⟨r.closeBlock.entities, r.relationships⟩

/-! ## Notes -/

/-- What there is to note when the open block ends. -/
def closeNotes (r : Reading) : List Diagnostic :=
  match r.block with
  | some e => if e.name ∈ r.entities then [.redeclared e.name] else []
  | none => []

/-- What there is to note about one more line. -/
def stepNotes (r : Reading) (number : Nat) (raw : List Char) : Line → List Diagnostic
  | .entityOpen _ =>
    match r.block with
    | some e => .blockLeftOpen e.name number :: r.closeNotes
    | none => []
  | .entityClose => if r.block.isNone then [.strayClose number] else r.closeNotes
  | .attr a => if r.block.isNone then [.attributeOutside number a.name] else []
  | .unrecognized => [.unrecognizedLine number (String.ofList (trim raw))]
  | .relationship .. | .blank | .separator => []

/-- What there is to note at the end of the text. -/
def endNotes (r : Reading) : List Diagnostic :=
  let unclosed :=
    match r.block with
    | some e => .blockUnclosed e.name :: r.closeNotes
    | none => []
  unclosed ++ [.diagramRead r.diagram.entities.size r.diagram.relationships.length]

/-- What there is to note from a line of that number to the end of the text. -/
def notes (r : Reading) (number : Nat) : List (List Char) → List Diagnostic
  | [] => r.endNotes
  | raw :: rest =>
    let line := Line.ofText raw
    r.stepNotes number raw line ++ (r.step number line).notes (number + 1) rest

end Reading

namespace Diagram

/-- The diagram that a text describes. -/
def ofText (text : String) : Diagram :=
  (Reading.start.steps 1 ((lines text.toList).map Line.ofText)).diagram

/-- What there is to note about a text. -/
def notes (text : String) : List Diagnostic := Reading.start.notes 1 (lines text.toList)

end Diagram

end Crowfoot
