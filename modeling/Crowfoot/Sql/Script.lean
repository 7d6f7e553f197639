import Crowfoot.Schema.Order
import Crowfoot.Sql.Statement

/-!
# The script of a schema

First the tables of the entities, parents before children; then the foreign keys, by
child; then the join tables. A foreign key and a join column have the type of the key
that they hold.
-/

namespace Crowfoot.Sql

/-- The three parts of a script. -/
structure Script where
  tables : List Statement
  foreignKeys : List Statement
  joinTables : List Statement
  deriving DecidableEq, Repr

/-- All statements, in the order of the script. -/
def Script.statements (s : Script) : List Statement := s.tables ++ s.foreignKeys ++ s.joinTables

/-- The text of a script. An empty line sets off each table. -/
def Script.render (s : Script) : String :=
  String.join (s.tables.map (·.render ++ "\n")) ++ String.join (s.foreignKeys.map Statement.render)
    ++ String.join (s.joinTables.map ("\n" ++ ·.render))

/-- The type of an entity's key; that of a number for an entity without one. -/
def keyType (s : Schema) (entity : String) : String :=
  columnType (((s.entity? entity).bind Entity.keyAttribute?).elim .number Attribute.type)

/-- The type of a column: as declared, or that of the key it holds. -/
def typeOf (s : Schema) (c : Column) : String :=
  match c.attr, c.foreignKey with
  | some a, _ => columnType a.type
  | none, some k => keyType s k.parent
  | none, none => columnType .text

/-- The definition of a column. The key is never null, and counts up if it is an integer. -/
def columnDef (s : Schema) (e : Entity) (c : Column) : ColumnDef :=
  let type := typeOf s c
  { name := c.name
    type
    notNull := e.isKey c.name || c.attr.any Attribute.mandatory
    autoIncrement := e.isKey c.name && isInteger type }

/-- The statement for the table of an entity. -/
def entityTable (s : Schema) (e : Entity) : Statement :=
  match s.columns e.name with
  | [] => .noColumns e.name
  | columns => .createTable e.name (columns.map (columnDef s e)) e.primaryKey.toList []

/-- The statement for a foreign key of an entity. -/
def foreignKey (child : String) (k : ForeignKey) : Statement :=
  match k.parentKey with
  | some key => .addForeignKey child ⟨k.column, k.parent, key⟩
  | none => .noParentKey child k.column k.parent

/-- The definition of a column of a join table. -/
def joinColumn (s : Schema) (side : JoinSide) : ColumnDef :=
  ⟨side.column, keyType s side.entity, true, false⟩

/-- The reference from a column of a join table, if the entity has a key. -/
def joinReference? (s : Schema) (side : JoinSide) : Option Reference :=
  ((s.entity? side.entity).bind Entity.primaryKey).map fun key =>
    ⟨side.column, side.entity, key⟩

/-- The statement for a join table. -/
def joinTable (s : Schema) (t : JoinTable) : Statement :=
  let sides := [t.left, t.right]
  .createTable t.name (sides.map (joinColumn s)) t.columns (sides.filterMap (joinReference? s))

/-- The script of a schema, its entities in that order. -/
def Script.ofSchema (s : Schema) (o : DependencyOrder) : Script where
  tables := (o.entities.filterMap s.entity?).map (entityTable s)
  foreignKeys := o.entities.flatMap fun child => (s.keysOf child).map (foreignKey child)
  joinTables := s.joinTables.map (joinTable s)

end Crowfoot.Sql
