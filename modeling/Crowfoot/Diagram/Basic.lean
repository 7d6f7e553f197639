import Crowfoot.Named
import Crowfoot.Text.Blank
import Crowfoot.Text.Folding

/-!
# Entity-relationship diagrams

A diagram declares entities with their attributes and connects entities by
relationships. A connector is drawn with a crow's foot at each end that stands for
many: `||--o{` connects one on the left with many on the right.
-/

namespace Crowfoot

open Text

/-- The declared type of an attribute: one of four, or any other word as it is written. -/
inductive DataType
  | number
  | text
  | datetime
  | boolean
  | other (token : String)
  deriving DecidableEq, Repr

namespace DataType

/-- The type a word stands for. The four built-in names are known in any case. -/
def ofToken (token : String) : DataType :=
  if SameName token "number" then .number
  else if SameName token "text" then .text
  else if SameName token "datetime" then .datetime
  else if SameName token "boolean" then .boolean
  else .other token

/-- The word for a type. -/
def token : DataType → String
  | number => "number"
  | text => "text"
  | datetime => "datetime"
  | boolean => "boolean"
  | other token => token

end DataType

/-- A mark on an attribute. The mark `generated` makes the attribute a primary key. -/
inductive Stereotype
  | generated
  | other (text : String)
  deriving DecidableEq, Repr

/-- The mark a text stands for, without the blanks around it. -/
def Stereotype.ofText (text : String) : Stereotype :=
  let word := String.ofList (trim text.toList)
  if SameName word "generated" then .generated else .other word

/-- A declared attribute of an entity. -/
structure Attribute where
  name : String
  type : DataType
  stereotype : Option Stereotype
  mandatory : Bool
  deriving DecidableEq, Repr

/-- The attribute is marked as a key. -/
def Attribute.isGenerated (a : Attribute) : Bool := a.stereotype = some .generated

/-- An entity. One that is not `declared` is only ever named in a relationship. -/
structure Entity where
  name : String
  attributes : List Attribute
  primaryKey : Option String
  declared : Bool
  deriving DecidableEq, Repr

namespace Entity

/-- An entity whose block has just been opened. -/
def opened (name : String) : Entity := ⟨name, [], none, true⟩

/-- An entity that stands in for an undeclared name. -/
def placeholder (name : String) : Entity := ⟨name, [], none, false⟩

/-- The first attribute of that very name. -/
def attribute? (e : Entity) (name : String) : Option Attribute :=
  e.attributes.find? (·.name = name)

/-- The attribute that is the primary key. -/
def keyAttribute? (e : Entity) : Option Attribute := e.primaryKey.bind e.attribute?

/-- The column is the entity's primary key. -/
def isKey (e : Entity) (column : String) : Bool := e.primaryKey = some column

/-- The entity with the last of its generated attributes as its primary key. -/
def keyed (e : Entity) : Entity :=
  { e with primaryKey := (e.attributes.reverse.find? Attribute.isGenerated).map Attribute.name }

end Entity

/-- One of the two ends of a relationship. -/
inductive Side
  | left
  | right
  deriving DecidableEq, Repr

/-- What a relationship says about numbers. -/
inductive Cardinality
  | oneToMany (parent : Side)
  | manyToMany
  deriving DecidableEq, Repr

/-- A connector, in three pieces as it is drawn from left to right. -/
structure Connector where
  left : String
  body : String
  right : String
  deriving DecidableEq, Repr

namespace Connector

/-- The ends a connector may have on its left. -/
def leftEnds : List String := ["||", "|o", "o|", "\x7do", "\x7d|"]

/-- The lines a connector may be drawn with. -/
def bodies : List String := ["--", ".."]

/-- The ends a connector may have on its right. -/
def rightEnds : List String := ["||", "|o", "o|", "o\x7b", "|\x7b"]

/-- The connector as it is drawn. -/
def text (c : Connector) : String := c.left ++ c.body ++ c.right

/-- The left end has a crow's foot. -/
def leftMany (c : Connector) : Bool := c.left.toList.head? = some '\x7d'

/-- The right end has a crow's foot. -/
def rightMany (c : Connector) : Bool := c.right.toList.getLast? = some '\x7b'

/--
The cardinality of a connector. The parent is the end without a crow's foot, with one
exception: after a left end `|o` it is the right end. Without any crow's foot the left
end is the parent.
-/
def cardinality (c : Connector) : Cardinality :=
  if c.leftMany then
    if c.rightMany then .manyToMany else .oneToMany .right
  else if c.rightMany && c.left = "|o" then .oneToMany .right
  else .oneToMany .left

end Connector

/-- A relationship line: two entity names, a connector and perhaps a label. -/
structure Relationship where
  left : String
  right : String
  connector : Connector
  label : Option String
  line : Nat
  deriving DecidableEq, Repr

/-- What a relationship asks of a schema. -/
inductive Link
  /-- The child has a column with a key of the parent. -/
  | reference (child parent : String)
  /-- Pairs of the two have a table of their own. -/
  | pairing (left right : String)
  deriving DecidableEq, Repr

namespace Relationship

/-- The relationship as it is written, without its label. -/
def text (r : Relationship) : String := r.left ++ " " ++ r.connector.text ++ " " ++ r.right

/-- The entities that the relationship names, each once. -/
def ends (r : Relationship) : List String :=
  if r.left = r.right then [r.left] else [r.left, r.right]

/-- The demand of the relationship, oriented as its connector says. -/
def link (r : Relationship) : Link :=
  match r.connector.cardinality with
  | .oneToMany .left => .reference r.right r.left
  | .oneToMany .right => .reference r.left r.right
  | .manyToMany => .pairing r.left r.right

end Relationship

/-- The content of a diagram: its entities by name and its relationships in order. -/
structure Diagram where
  entities : Named Entity
  relationships : List Relationship

end Crowfoot
