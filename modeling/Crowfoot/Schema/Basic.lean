import Crowfoot.Diagram.Basic

/-!
# Schemas

A schema is a diagram with its relationships turned into foreign keys and join tables.
The columns of an entity's table are its declared attributes, followed by the foreign
keys that no attribute declares.
-/

namespace Crowfoot

/-- A column of a child that holds keys of a parent. -/
structure ForeignKey where
  column : String
  parent : String
  /-- The parent's primary key, if the parent has one. -/
  parentKey : Option String
  deriving DecidableEq, Repr

/-- A column of a join table and the entity whose keys it holds. -/
structure JoinSide where
  column : String
  entity : String
  deriving DecidableEq, Repr

/-- A table of pairs of two entities, made for the relationship on `line`. -/
structure JoinTable where
  name : String
  left : JoinSide
  right : JoinSide
  line : Nat
  deriving DecidableEq, Repr

/-- The names of the two columns. -/
def JoinTable.columns (t : JoinTable) : List String := [t.left.column, t.right.column]

/-- Entities, foreign keys by child, and join tables in the order of their lines. -/
structure Schema where
  entities : Named Entity
  foreignKeys : Named (List ForeignKey)
  joinTables : List JoinTable

/-- A column of an entity's table: a declared attribute, a foreign key, or both. -/
structure Column where
  name : String
  attr : Option Attribute
  foreignKey : Option ForeignKey
  deriving DecidableEq, Repr

namespace Schema

/-- The entity of that very name. -/
def entity? (s : Schema) (name : String) : Option Entity := s.entities[name]?

/-- The foreign keys of an entity, in the order of their relationships. -/
def keysOf (s : Schema) (entity : String) : List ForeignKey := s.foreignKeys[entity]?.getD []

/--
The columns of an entity's table. An attribute with the very name of a foreign key's
column is that column; the other foreign keys follow the attributes.
-/
def columns (s : Schema) (entity : String) : List Column :=
  match s.entity? entity with
  | none => []
  | some e =>
    let keys := s.keysOf entity
    e.attributes.map (fun a => ⟨a.name, some a, keys.find? (·.column = a.name)⟩)
      ++ (keys.filter fun k => (e.attribute? k.column).isNone).map
        fun k => ⟨k.column, none, some k⟩

/-- The names of the columns of an entity's table. -/
def columnNames (s : Schema) (entity : String) : List String :=
  (s.columns entity).map Column.name

end Schema

end Crowfoot
