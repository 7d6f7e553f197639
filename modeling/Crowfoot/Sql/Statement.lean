import Crowfoot.Diagram.Basic
import Crowfoot.Text.Uppercase

/-!
# Statements of a database definition

A script creates tables and adds foreign keys between them. Where a diagram gives
nothing to create or to refer to, a comment stands in its place.
-/

namespace Crowfoot.Sql

open Text

/-- The column type for a declared type. A word that is not built in is used in upper case. -/
def columnType : DataType → String
  | .number => "INT"
  | .text => "VARCHAR(255)"
  | .datetime => "DATETIME"
  | .boolean => "BOOLEAN"
  | .other token => String.ofList (upper token.toList)

/-- The column types that count up by themselves in a key. -/
def integerTypes : List String := ["INT", "INTEGER", "BIGINT", "SMALLINT", "TINYINT", "MEDIUMINT"]

/-- The column type, less its arguments, is an integer type. -/
def isInteger (type : String) : Bool :=
  String.ofList (trim (type.toList.takeWhile (· ≠ '('))) ∈ integerTypes

/-- A column of a table that is created. -/
structure ColumnDef where
  name : String
  type : String
  notNull : Bool
  autoIncrement : Bool
  deriving DecidableEq, Repr

/-- A column that holds values of the key of another table. -/
structure Reference where
  column : String
  table : String
  key : String
  deriving DecidableEq, Repr

/-- A statement of a script, or a comment in its place. -/
inductive Statement
  | createTable (name : String) (columns : List ColumnDef) (primaryKey : List String)
      (references : List Reference)
  /-- The table would have no columns. -/
  | noColumns (name : String)
  | addForeignKey (child : String) (reference : Reference)
  /-- The parent has no key to refer to. -/
  | noParentKey (child column parent : String)
  deriving DecidableEq, Repr

/-- The definition of a column. -/
def ColumnDef.render (c : ColumnDef) : String :=
  c.name ++ " " ++ c.type ++ (if c.notNull then " NOT NULL" else "")
    ++ (if c.autoIncrement then " AUTO_INCREMENT" else "")

/-- The clause of a reference. -/
def Reference.render (r : Reference) : String :=
  "FOREIGN KEY (" ++ r.column ++ ") REFERENCES " ++ r.table ++ " (" ++ r.key ++ ")"

/-- The name of the constraint by which a child's column refers to a parent. -/
def constraintName (child column : String) : String := "fk_" ++ child ++ "_" ++ column

/-- The parts of a table, one on a line, with commas between them. -/
def renderParts (parts : List String) : String :=
  ",\n".intercalate (parts.map ("    " ++ ·))

/-- The clause of a primary key; a table without one has no clause. -/
def keyClause : List String → List String
  | [] => []
  | columns => ["PRIMARY KEY (" ++ ", ".intercalate columns ++ ")"]

/-- The text of a statement, with a line feed at its end. -/
def Statement.render : Statement → String
  | createTable name columns primaryKey references =>
    "CREATE TABLE " ++ name ++ " (\n"
      ++ renderParts (columns.map ColumnDef.render ++ keyClause primaryKey
        ++ references.map Reference.render)
      ++ "\n);\n"
  | noColumns name => "-- " ++ name ++ ": no columns declared\n"
  | addForeignKey child reference =>
    "ALTER TABLE " ++ child ++ " ADD CONSTRAINT " ++ constraintName child reference.column ++ " "
      ++ reference.render ++ ";\n"
  | noParentKey child column parent =>
    "-- " ++ child ++ "." ++ column ++ ": " ++ parent
      ++ " has no primary key, constraint skipped\n"

end Crowfoot.Sql
