import Crowfoot.Dataset.Fallback
import Crowfoot.Diagnostic
import Crowfoot.Random.Shuffle
import Crowfoot.Schema.Order

/-!
# Filling the tables

The entities are taken in their order, then the join tables. An entity's keys are
`1, 2, …` up to the number of rows. A foreign key is picked among the keys of its parent,
which were generated before; a reference of an entity to itself is picked among the keys
that its own table will have.

The pairs of a join table match the shuffled keys of the left side with the shuffled keys
of the right side. Both sides have as many keys as there are rows, so this gives all the
rows. Only if it did not would further pairs be drawn.
-/

namespace Crowfoot

/-- Why tables cannot be filled. The column belongs to an entity or to a join table. -/
inductive GenerationError
  | missingParentKey (table column parent : String)
  | emptyKeyPool (table column parent : String)
  | unknownEntity (name : String)
  deriving DecidableEq, Repr

/-- The error in words. -/
def GenerationError.message : GenerationError → String
  | missingParentKey table column parent =>
    "`" ++ table ++ "." ++ column ++ "` references `" ++ parent ++ "`, which has no primary key"
  | emptyKeyPool table column parent =>
    "`" ++ table ++ "." ++ column ++ "` references `" ++ parent
      ++ "`, which has no generated keys to pick from"
  | unknownEntity name => "entity `" ++ name ++ "` is in the processing order but not in the schema"

/-- A computation that draws random words and may fail. -/
abbrev Fill (γ : Type) := ExceptT GenerationError (Draw γ)

/-- The tables that are filled and the keys in them. -/
structure Progress where
  tables : List Table
  pools : KeyPools

/-- Nothing is filled. -/
def Progress.start : Progress := ⟨[], []⟩

/-- The keys of an entity with that many rows. -/
def keyRange (rows : Nat) : List Int := (List.range rows).map fun i : Nat => (i : Int) + 1

namespace Fill

variable {γ : Type} [Generator γ]

/-- A computation that draws and does not fail. -/
def draw {α : Type} (d : Draw γ α) : Fill γ α := ExceptT.lift d

/-! ## Entities -/

/-- A key of the parent, for a table of that many rows. -/
def parentKey (e : Entity) (k : ForeignKey) (rows : Nat) (pools : KeyPools) : Fill γ Value := do
  if k.parentKey.isNone then throw (.missingParentKey e.name k.column k.parent)
  -- the table is not filled yet, but its keys are known
  else if k.parent = e.name then return .int (← draw (Draw.between 1 rows))
  else
    match ← draw (Draw.choose (pools.of k.parent)) with
    | some key => return .int key
    | none => throw (.emptyKeyPool e.name k.column k.parent)

/-- The value of a column: the key, a key of the parent, or a value for the attribute. -/
def cell (source : ValueSource γ) (e : Entity) (rows : Nat) (c : Column) (row : RowContext) :
    Fill γ Value := do
  if e.isKey c.name then return .int (row.rowIndex + 1)
  else
    match c.foreignKey, c.attr with
    | some k, _ => parentKey e k rows row.keys
    | none, some a =>
      match ← draw (source row a) with
      | some v => return v
      | none => draw a.fallback
    | none, none => return .null

/-- The values of a row, those of the columns in front of the given ones being there. -/
def cells (source : ValueSource γ) (e : Entity) (rows : Nat) (row : RowContext) :
    List Column → Fill γ (List Value)
  | [] => return row.values
  | c :: rest => do
    let v ← cell source e rows c row
    cells source e rows { row with values := row.values ++ [v] } rest

/-- The table of an entity. -/
def entityTable (source : ValueSource γ) (s : Schema) (rows : Nat) (p : Progress) (e : Entity) :
    Fill γ Table := do
  let columns := s.columns e.name
  let names := columns.map Column.name
  let filled ← (List.range rows).mapM fun i =>
    cells source e rows ⟨e.name, i, names, [], p.tables, p.pools⟩ columns
  return ⟨e.name, .entity, names, filled⟩

/-- What is filled after one more entity. -/
def entity (source : ValueSource γ) (s : Schema) (rows : Nat) (p : Progress) (name : String) :
    Fill γ Progress := do
  match s.entity? name with
  | none => throw (.unknownEntity name)
  | some e =>
    let table ← entityTable source s rows p e
    let pools := if e.primaryKey.isSome then p.pools ++ [(name, keyRange rows)] else p.pools
    return ⟨p.tables ++ [table], pools⟩

/-! ## Join tables -/

/-- The keys of one side of a join table. -/
def joinPool (s : Schema) (t : JoinTable) (pools : KeyPools) (side : JoinSide) :
    Except GenerationError (List Int) :=
  if ((s.entity? side.entity).bind Entity.primaryKey).isNone then
    .error (.missingParentKey t.name side.column side.entity)
  else if (pools.of side.entity).isEmpty then
    .error (.emptyKeyPool t.name side.column side.entity)
  else .ok (pools.of side.entity)

/-- Some pairs need no drawing: the shuffled sides, item by item. -/
def matching (rows : Nat) (left right : List Int) : Draw γ (List (Int × Int)) := do
  let left ← Draw.shuffle left
  let right ← Draw.shuffle right
  return (left.zip right).take rows

/-- There are fewer pairs than rows, and some pairs are not among them. -/
def Wanting (rows : Nat) (left right : List Int) (pairs : List (Int × Int)) : Prop :=
  pairs.length < rows ∧ pairs.eraseDups.length < left.length * right.length

instance (rows : Nat) (left right : List Int) (pairs : List (Int × Int)) :
    Decidable (Wanting rows left right pairs) := inferInstanceAs (Decidable (_ ∧ _))

/--
The pairs with further ones that are not among them, until there are enough or all. Each
attempt draws a pair; after that many attempts the pairs are left as they are.
-/
def drawMore (rows : Nat) (left right : List Int) :
    (attempts : Nat) → List (Int × Int) → Draw γ (List (Int × Int))
  | 0, pairs => return pairs
  | attempts + 1, pairs => do
    if Wanting rows left right pairs then
      match ← Draw.choose left, ← Draw.choose right with
      | some l, some r =>
        drawMore rows left right attempts
          (if (l, r) ∈ pairs then pairs else pairs ++ [(l, r)])
      | _, _ => drawMore rows left right attempts pairs
    else return pairs

/-- How often a missing pair is drawn for. -/
def attempts (rows : Nat) : Nat := 100 * rows

/-- A join table. -/
def joinTable (s : Schema) (rows : Nat) (p : Progress) (t : JoinTable) : Fill γ Table := do
  -- without rows nothing is picked, so nothing can be missing
  if rows = 0 then return ⟨t.name, .join, t.columns, []⟩
  else
    let left ← joinPool s t p.pools t.left
    let right ← joinPool s t p.pools t.right
    let pairs ← draw (matching rows left right)
    let pairs ← draw (drawMore rows left right (attempts rows) pairs)
    return ⟨t.name, .join, t.columns, pairs.map fun (l, r) => [.int l, .int r]⟩

/-- What is filled after one more join table. -/
def join (s : Schema) (rows : Nat) (p : Progress) (t : JoinTable) : Fill γ Progress := do
  return { p with tables := p.tables ++ [← joinTable s rows p t] }

end Fill

/-! ## All tables -/

/-- The tables that were filled, and the error that ended the filling if there was one. -/
structure Generation where
  tables : List Table
  error : Option GenerationError

namespace Generation

variable {γ : Type} [Generator γ]

/-- The steps one after the other until one fails. -/
def run (p : Progress) : List (Progress → Fill γ Progress) → Draw γ Generation
  | [] => return ⟨p.tables, none⟩
  | step :: rest => do
    match ← (step p).run with
    | .ok p => run p rest
    | .error e => return ⟨p.tables, some e⟩

/-- The steps of a schema: its entities in that order, then its join tables. -/
def steps (source : ValueSource γ) (s : Schema) (o : DependencyOrder) (rows : Nat) :
    List (Progress → Fill γ Progress) :=
  o.entities.map (fun name p => Fill.entity source s rows p name)
    ++ s.joinTables.map fun t p => Fill.join s rows p t

/-- The tables of a schema, with that many rows each. -/
def ofSchema (source : ValueSource γ) (s : Schema) (o : DependencyOrder) (rows : Nat) :
    Draw γ Generation :=
  run .start (steps source s o rows)

/-- The dataset, if all tables were filled. -/
def dataset (g : Generation) : Except GenerationError Dataset :=
  match g.error with
  | some e => .error e
  | none => .ok ⟨g.tables⟩

/-- What there is to note about a table of which that many rows were asked for. -/
def tableNotes (rows : Nat) (t : Table) : List Diagnostic :=
  match t.kind with
  | .entity => [.entityFilled t.name t.rows.length]
  | .join =>
    (if t.rows.length < rows then [.joinShort t.name rows t.rows.length] else [])
      ++ [.joinFilled t.name t.rows.length]

/-- What there is to note about the tables that were filled. -/
def notes (rows : Nat) (g : Generation) : List Diagnostic := g.tables.flatMap (tableNotes rows)

end Generation

end Crowfoot
