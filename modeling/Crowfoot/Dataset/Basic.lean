import Crowfoot.Diagram.Basic
import Crowfoot.Random.Generator

/-!
# Tables of values

A dataset is a list of tables. While a row is being filled, the values before it in the
row, the tables before it and the keys generated so far are at hand, and a source of
values may derive a value from them.
-/

namespace Crowfoot

open Text

/-- The content of a cell. -/
inductive Value
  | int (n : Int)
  | text (s : String)
  | null
  deriving DecidableEq, Repr

namespace Value

/-- The number in a cell. -/
def int? : Value → Option Int
  | int n => some n
  | _ => none

/-- The value as text; nothing for null. -/
def display : Value → String
  | int n => n.repr
  | text s => s
  | null => ""

end Value

/-- What a table stands for. -/
inductive TableKind
  | entity
  | join
  deriving DecidableEq, Repr

/-- A table with a name for each column. -/
structure Table where
  name : String
  kind : TableKind
  columns : List String
  rows : List (List Value)
  deriving DecidableEq, Repr

/-- The place of the first column of that name, in any case. -/
def columnIndex? (columns : List String) (name : String) : Option Nat :=
  columns.findIdx? (SameName · name)

namespace Table

/-- The cell in a row, in the first column of that name in any case. -/
def cell? (t : Table) (row : Nat) (column : String) : Option Value := do
  let index ← columnIndex? t.columns column
  (← t.rows[row]?)[index]?

/-- The cells of the first column of that very name. -/
def columnValues (t : Table) (column : String) : List Value :=
  match t.columns.idxOf? column with
  | some index => t.rows.filterMap (·[index]?)
  | none => []

end Table

/-- Generated tables: those of the entities, parents first, then the join tables. -/
structure Dataset where
  tables : List Table
  deriving DecidableEq, Repr

/-- The first table of that very name. -/
def Dataset.table? (d : Dataset) (name : String) : Option Table :=
  d.tables.find? (·.name = name)

/-- The keys that have been generated, by entity, in the order of the entities. -/
abbrev KeyPools := List (String × List Int)

/-- The keys of an entity of that very name; none before they are generated. -/
def KeyPools.of (pools : KeyPools) (entity : String) : List Int := (pools.lookup entity).getD []

/-- A row that is being filled, and all that was generated before it. -/
structure RowContext where
  entity : String
  rowIndex : Nat
  /-- All columns of the table. -/
  columns : List String
  /-- The values of the first columns. -/
  values : List Value
  tables : List Table
  keys : KeyPools

namespace RowContext

/-- The value of a column of that name, in any case, if it is there already. -/
def get? (row : RowContext) (column : String) : Option Value := do
  row.values[← columnIndex? row.columns column]?

/-- The first earlier table of that name, in any case. -/
def table? (row : RowContext) (name : String) : Option Table :=
  row.tables.find? (SameName ·.name name)

/-- The keys of the first earlier entity of that name, in any case. -/
def keysOf (row : RowContext) (entity : String) : List Int :=
  ((row.keys.find? (SameName ·.1 entity)).map Prod.snd).getD []

end RowContext

/--
A source of values for the columns that are neither keys nor foreign keys. Where it has
none, the type of the attribute decides.
-/
abbrev ValueSource (γ : Type) := RowContext → Attribute → Draw γ (Option Value)

end Crowfoot
