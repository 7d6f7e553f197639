import Crowfoot.Diagram.Basic

/-!
# Writing a diagram

Entities are written as blocks, with one attribute on a line. The relationships follow, one on a
line each.
-/

namespace Crowfoot

/-- The word for a mark. -/
def Stereotype.text : Stereotype → String
  | generated => "generated"
  | other text => text

/-- The line of an attribute. -/
def Attribute.written (a : Attribute) : String :=
  (if a.mandatory then "* " else "") ++ a.name ++ " : " ++ a.type.token
    ++ a.stereotype.elim "" fun mark => " << " ++ mark.text ++ " >>"

/-- The line that opens the block of an entity. -/
def Entity.opening (e : Entity) : String := "entity " ++ e.name ++ " \x7b"

/-- The lines of an entity's block. -/
def Entity.written (e : Entity) : List String :=
  e.opening :: (e.attributes.map Attribute.written ++ ["\x7d"])

/-- The line of a relationship. -/
def Relationship.written (r : Relationship) : String := r.text ++ r.label.elim "" (" : " ++ ·)

namespace Diagram

/-- The lines of entities and of relationships. -/
def writtenLines (es : List Entity) (rs : List Relationship) : List String :=
  es.flatMap Entity.written ++ rs.map Relationship.written

/-- The text of entities and of relationships. -/
def write (es : List Entity) (rs : List Relationship) : String :=
  String.join ((writtenLines es rs).map (· ++ "\n"))

end Diagram

end Crowfoot
