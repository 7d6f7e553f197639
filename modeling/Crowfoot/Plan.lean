import Crowfoot.Csv
import Crowfoot.Dataset.Filling
import Crowfoot.Diagram.Reading
import Crowfoot.Schema.Resolution
import Crowfoot.Sql.Script
import Crowfoot.Xmi.Export

/-!
# Plans

A plan is the schema of a diagram with the order of its entities. The script, the class
model and the data are made from it and from nothing else.
-/

namespace Crowfoot

/-- A schema, and the order of its entities. -/
structure Plan where
  schema : Schema
  order : DependencyOrder

/-- Why there is no artifact. -/
inductive PlanError
  | resolution (e : ResolutionError)
  | generation (e : GenerationError)
  | csv (e : Csv.UnequalLengths)
  deriving DecidableEq, Repr

/-- The error in words. -/
def PlanError.message : PlanError → String
  | resolution e => e.message
  | generation e => e.message
  | csv e => e.message

/-- The number of rows where none is given. -/
def defaultRows : Nat := 4

namespace Plan

/-- The plan of a schema. -/
def ofSchema (s : Schema) : Plan := ⟨s, .ofSchema s⟩

/-- The plan of a diagram. -/
def ofDiagram (mode : Undeclared) (d : Diagram) : Except ResolutionError Plan :=
  (Schema.resolve mode d).map ofSchema

/-- The plan of the diagram that a text describes. -/
def ofText (mode : Undeclared) (text : String) : Except ResolutionError Plan :=
  ofDiagram mode (.ofText text)

/-- What there is to note about a text and its plan. -/
def notes (mode : Undeclared) (text : String) : List Diagnostic :=
  Diagram.notes text ++ Schema.notes mode (.ofText text)
    ++ match ofText mode text with
      | .ok p => DependencyOrder.notes p.schema
      | .error _ => []

/-- The script that creates the tables. -/
def sql (p : Plan) : String := (Sql.Script.ofSchema p.schema p.order).render

/-- The class model under that name. -/
def xmi (p : Plan) (name : String) : String := (Xmi.ofSchema p.schema p.order name).render

variable {γ : Type} [Generator γ]

/-- The tables, with that many rows each. -/
def generate (p : Plan) (source : ValueSource γ) (rows : Nat) : Draw γ Generation :=
  Generation.ofSchema source p.schema p.order rows

/-- The data, with that many rows in each table. -/
def dataset (p : Plan) (source : ValueSource γ) (rows : Nat) :
    Draw γ (Except GenerationError Dataset) :=
  return (← p.generate source rows).dataset

/-- The files for the tables of a dataset, in their order. -/
def filesOf (d : Dataset) : Except Csv.UnequalLengths (List (String × String)) :=
  d.tables.mapM fun t => return (Csv.fileName t, ← Csv.render t)

/-- The files for the data: names and contents. -/
def csvFiles (p : Plan) (source : ValueSource γ) (rows : Nat) :
    Draw γ (Except PlanError (List (String × String))) := do
  match ← p.dataset source rows with
  | .error e => return .error (.generation e)
  | .ok d => return (filesOf d).mapError .csv

end Plan

end Crowfoot
