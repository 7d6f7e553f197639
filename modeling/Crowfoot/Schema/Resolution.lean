import Crowfoot.Diagnostic
import Crowfoot.Schema.Basic

/-!
# From a diagram to a schema

The relationships are taken one by one. Each first makes sure of its two entities, then
adds a foreign key to the child or a join table for the pair. A relationship that
repeats an earlier one adds nothing. At the end no join table may be named like an
entity.

Names of tables and columns are compared without regard to case, names of entities
exactly. What is noted about a relationship depends on the schema before it and has no
influence on the schema after it.
-/

namespace Crowfoot

open Text

/-- What becomes of a name that only relationships mention. -/
inductive Undeclared
  /-- It stands for an entity without attributes and key. -/
  | synthesize
  /-- It is an error. -/
  | reject
  deriving DecidableEq, Repr

/-- Why a diagram has no schema. -/
inductive ResolutionError
  /-- The relationship on that line names an entity without a block. -/
  | undeclaredEntity (entity relationship : String) (line : Nat)
  /-- The join table for the relationship on that line has the name of another table. -/
  | joinTableClash (table : String) (line : Nat)
  deriving DecidableEq, Repr

/-- The error in words. -/
def ResolutionError.message : ResolutionError → String
  | undeclaredEntity entity relationship line =>
    "relationship `" ++ relationship ++ "` on line " ++ line.repr
      ++ " references undeclared entity `" ++ entity ++ "`"
  | joinTableClash table line =>
    "join table `" ++ table ++ "` from the relationship on line " ++ line.repr
      ++ " clashes with another table of the same name"

/-- The column a child has for a parent, unless it declares one of its own. -/
def keyColumn (parent : String) : String := parent ++ "_id"

/--
The column by which a child refers to a parent. A declared attribute of that name, in
any case, is that column in its own spelling; if the attribute is the child's own key,
the reference needs a column beside it.
-/
def Entity.referenceColumn (child : Entity) (parent : String) : String :=
  match child.attributes.find? (SameName ·.name (keyColumn parent)) with
  | some a => if child.isKey a.name then "parent_" ++ keyColumn parent else a.name
  | none => keyColumn parent

/-- The name of the table for pairs of two entities. -/
def joinName (left right : String) : String := left ++ "_" ++ right

/-- The table for pairs of two entities, with two columns of different names. -/
def JoinTable.ofPair (left right : String) (line : Nat) : JoinTable where
  name := joinName left right
  left := ⟨keyColumn left, left⟩
  right := ⟨if keyColumn right = keyColumn left then keyColumn right ++ "_2" else keyColumn right,
    right⟩
  line

namespace Schema

/-- The schema with an entity of that name, which the relationship mentions. -/
def withEntity (mode : Undeclared) (r : Relationship) (s : Schema) (name : String) :
    Except ResolutionError Schema :=
  if name ∈ s.entities then .ok s
  else
    match mode with
    | .synthesize => .ok { s with entities := s.entities.insert name (.placeholder name) }
    | .reject => .error (.undeclaredEntity name r.text r.line)

/-- The column by which the child refers to the parent. -/
def referenceColumn (s : Schema) (child parent : String) : String :=
  ((s.entity? child).getD (.placeholder child)).referenceColumn parent

/-- The entity has a foreign key in a column of that name. -/
def hasKeyColumn (s : Schema) (entity column : String) : Bool :=
  (s.keysOf entity).any (SameName ·.column column)

/-- The schema with a foreign key from the child to the parent. -/
def addReference (s : Schema) (child parent : String) : Schema :=
  let column := s.referenceColumn child parent
  -- a column holds the keys of one parent only, and the first one has it
  if s.hasKeyColumn child column then s
  else
    let key := ⟨column, parent, (s.entity? parent).bind Entity.primaryKey⟩
    { s with foreignKeys := s.foreignKeys.insert child (s.keysOf child ++ [key]) }

/-- The join table of that name. -/
def joinTable? (s : Schema) (name : String) : Option JoinTable :=
  s.joinTables.find? (SameName ·.name name)

/-- The schema with a table for pairs of the two entities. -/
def addPairing (s : Schema) (left right : String) (line : Nat) : Except ResolutionError Schema :=
  match s.joinTable? (joinName left right) with
  | some t =>
    if t.left.entity = left ∧ t.right.entity = right then .ok s
    else .error (.joinTableClash (joinName left right) line)
  | none => .ok { s with joinTables := s.joinTables ++ [.ofPair left right line] }

/-- The schema with both entities of a relationship. -/
def withEnds (mode : Undeclared) (s : Schema) (r : Relationship) :
    Except ResolutionError Schema := do
  (← s.withEntity mode r r.left).withEntity mode r r.right

/-- The schema with what a relationship asks for, its entities being there. -/
def addLink (s : Schema) (r : Relationship) : Except ResolutionError Schema :=
  match r.link with
  | .reference child parent => .ok (s.addReference child parent)
  | .pairing left right => s.addPairing left right r.line

/-- The schema with one more relationship. -/
def relate (mode : Undeclared) (s : Schema) (r : Relationship) :
    Except ResolutionError Schema := do
  (← s.withEnds mode r).addLink r

/-- The schema with more relationships. -/
def relateAll (mode : Undeclared) (s : Schema) : List Relationship → Except ResolutionError Schema
  | [] => .ok s
  | r :: rest => do (← s.relate mode r).relateAll mode rest

/-- The first join table that is named like an entity. -/
def clash? (s : Schema) : Option JoinTable :=
  -- placeholders count too, so this waits for the last relationship
  let names := s.entities.keys
  s.joinTables.find? fun t => names.any (SameName · t.name)

/-- The schema of a diagram's entities, before any relationship. -/
def ofEntities (d : Diagram) : Schema := ⟨d.entities, ∅, []⟩

/-- The schema of a diagram. -/
def resolve (mode : Undeclared) (d : Diagram) : Except ResolutionError Schema := do
  let s ← (ofEntities d).relateAll mode d.relationships
  match s.clash? with
  | some t => .error (.joinTableClash t.name t.line)
  | none => .ok s

/-! ## Notes -/

/-- What there is to note about the entities of a relationship. -/
def endNotes (s : Schema) (r : Relationship) : List Diagnostic :=
  (r.ends.filter (· ∉ s.entities)).map (.placeholder · r.line)

/-- What there is to note about the demand of a relationship, its entities being there. -/
def linkNotes (s : Schema) (r : Relationship) : List Diagnostic :=
  match r.link with
  | .reference child parent =>
    let column := s.referenceColumn child parent
    if s.hasKeyColumn child column then [.keyAlreadyDerived child column] else []
  | .pairing left right =>
    match s.joinTable? (joinName left right) with
    | some t =>
      if t.left.entity = left ∧ t.right.entity = right then
        [.joinAlreadyDeclared (joinName left right) r.line]
      else []
    | none =>
      if s.joinTables.any fun t => t.left.entity = right ∧ t.right.entity = left then
        [.joinBothWays (joinName left right) r.line]
      else []

/-- What there is to note at the end. -/
def summary (s : Schema) : Diagnostic :=
  .resolved s.entities.size s.foreignKeys.values.flatten.length s.joinTables.length

/-- What there is to note about relationships that are added to a schema. -/
def relationNotes (mode : Undeclared) (s : Schema) : List Relationship → List Diagnostic
  | [] => if s.clash?.isNone then [s.summary] else []
  | r :: rest =>
    match s.withEnds mode r with
    | .error _ => []
    | .ok s' =>
      s.endNotes r ++ s'.linkNotes r ++
        match s'.addLink r with
        | .error _ => []
        | .ok s'' => s''.relationNotes mode rest

/-- What there is to note about a diagram. -/
def notes (mode : Undeclared) (d : Diagram) : List Diagnostic :=
  (ofEntities d).relationNotes mode d.relationships

end Schema

end Crowfoot
