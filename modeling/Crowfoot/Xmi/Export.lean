import Crowfoot.Schema.Order
import Crowfoot.Text.Alphanumeric
import Crowfoot.Text.Numeral
import Crowfoot.Xmi.Element

/-!
# The class model of a schema

Each entity is exported as a class with its declared attributes, and each declared type
as a primitive type in front of the classes. Relationships and keys are not exported.
-/

namespace Crowfoot.Xmi

open Text

/-- A character within the identifier of a type. -/
def identifierChar (c : Char) : String :=
  if isAlphanumeric c then String.singleton c else "_" ++ hexadecimal c.toNat ++ "_"

/-- The identifier of a type: different words have different identifiers. -/
def typeId (t : DataType) : String := "type_" ++ String.join (t.token.toList.map identifierChar)

/-- The identifier of an entity's class. -/
def classId (e : Entity) : String := "class_" ++ e.name

/-- The identifier of an attribute. -/
def attributeId (e : Entity) (a : Attribute) : String := e.name ++ "." ++ a.name

/-- The primitive type for a declared type. -/
def primitiveType (t : DataType) : Element :=
  .empty "packagedElement"
    [("xmi:type", "uml:PrimitiveType"), ("xmi:id", typeId t), ("name", t.token)]

/-- The attribute of a class. -/
def ownedAttribute (e : Entity) (a : Attribute) : Element :=
  .empty "ownedAttribute" [("xmi:id", attributeId e a), ("name", a.name), ("type", typeId a.type)]

/-- The class for an entity. -/
def classElement (e : Entity) : Element :=
  let attributes := [("xmi:type", "uml:Class"), ("xmi:id", classId e), ("name", e.name)]
  if e.attributes.isEmpty then .empty "packagedElement" attributes
  else .nested "packagedElement" attributes (e.attributes.map (ownedAttribute e))

/-- The declared types of the entities, each where it comes first. -/
def declaredTypes (entities : List Entity) : List DataType :=
  (entities.flatMap fun e => e.attributes.map Attribute.type).eraseDups

/-- The export of the entities under the name of a model. -/
def ofEntities (entities : List Entity) (name : String) : Element :=
  .nested "xmi:XMI"
    [("xmi:version", "2.1"), ("xmlns:xmi", "http://schema.omg.org/spec/XMI/2.1"),
      ("xmlns:uml", "http://www.eclipse.org/uml2/3.0.0/UML")]
    [.nested "uml:Model" [("xmi:id", "model"), ("name", name)]
      ((declaredTypes entities).map primitiveType ++ entities.map classElement)]

/-- The export of a schema, its entities in that order. -/
def ofSchema (s : Schema) (o : DependencyOrder) (name : String) : Element :=
  ofEntities (o.entities.filterMap s.entity?) name

end Crowfoot.Xmi
