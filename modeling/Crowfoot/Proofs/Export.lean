import Crowfoot.Proofs.Firsts
import Crowfoot.Proofs.Identifiers
import Crowfoot.Proofs.Script

/-!
# What an export refers to

An attribute of a class refers to its type by an identifier, and whoever reads the document has to
find that type and nothing else. So the identifiers in a document are pairwise distinct, and where a
type is declared there is one primitive type for it, with the identifier that the attributes give.

This is a statement about a text. It is made about the element that the text is read as, and a
document is read in one way only.
-/

namespace Crowfoot

open Text

/-- A type of an attribute of some entity. -/
def Schema.Declares (s : Schema) (t : DataType) : Prop :=
  ∃ name e, s.entity? name = some e ∧ ∃ a ∈ e.attributes, a.type = t

namespace Xmi

/-! ## Looking into a document -/

namespace Element

mutual

/-- The element and those within it, in the order in which they begin. -/
def all : Element → List Element
  | empty tag attributes => [empty tag attributes]
  | nested tag attributes children => nested tag attributes children :: allOf children

/-- Neighbouring elements and those within them. -/
def allOf : List Element → List Element
  | [] => []
  | e :: rest => all e ++ allOf rest

end

/-- The value of an attribute. -/
def attribute? (e : Element) (key : String) : Option String := e.attributes.lookup key

/-- The identifier of an element. -/
def id? (e : Element) : Option String := e.attribute? "xmi:id"

/-- The identifiers in a document. -/
def ids (d : Element) : List String := d.all.filterMap id?

/-- The primitive types in a document. -/
def primitiveTypes (d : Element) : List Element :=
  d.all.filter fun e => e.attribute? "xmi:type" = some "uml:PrimitiveType"

/-- The attributes of the classes in a document. -/
def ownedAttributes (d : Element) : List Element := d.all.filter fun e => e.tag = "ownedAttribute"

/-- What the identifiers in a document say that exports the schema. -/
structure Identified (d : Element) (s : Schema) : Prop where
  /-- No two elements have one identifier. -/
  nodup : d.ids.Nodup
  /-- The model, the types, the classes and the attributes have one. -/
  mem : ∀ id, id ∈ d.ids ↔ id = "model" ∨ (∃ t, s.Declares t ∧ id = typeId t) ∨
    ∃ name e, s.entity? name = some e ∧ (id = classId e ∨ ∃ a ∈ e.attributes, id = attributeId e a)
  /-- Each declared type has one primitive type, with its word for a name. -/
  types : ∃ types : List DataType, (types.map DataType.token).Nodup ∧
    (∀ t, t ∈ types ↔ s.Declares t) ∧
    d.primitiveTypes.map (·.attribute? "name") = types.map fun t => some t.token
  /-- The attributes of the classes are those of the entities. -/
  owned : ∀ name e, s.entity? name = some e → ∀ a ∈ e.attributes,
    ∃ o ∈ d.ownedAttributes, o.id? = some (attributeId e a)
  /-- The type of such an attribute is the identifier of one element, and that is the one
  primitive type with the word of the declared type for a name. -/
  refers : ∀ o ∈ d.ownedAttributes, ∃ name e, s.entity? name = some e ∧ ∃ a ∈ e.attributes,
    o.id? = some (attributeId e a) ∧ o.attribute? "name" = some a.name ∧
    ∃ id x, o.attribute? "type" = some id ∧ d.all.filter (·.id? = some id) = [x] ∧
      d.primitiveTypes.filter (·.attribute? "name" = some a.type.token) = [x]

theorem allOf_append (es fs : List Element) : allOf (es ++ fs) = allOf es ++ allOf fs := by
  induction es with
  | nil => rfl
  | cons e rest ih => rw [List.cons_append, allOf, allOf, ih, List.append_assoc]

theorem allOf_map {α : Type} (f : α → Element) (l : List α) :
    allOf (l.map f) = l.flatMap fun a => (f a).all := by
  induction l with
  | nil => rfl
  | cons a rest ih => rw [List.map_cons, allOf, ih, List.flatMap_cons]

theorem all_eq (e : Element) : e.all = e :: allOf e.children := by
  cases e <;> rfl

end Element

/-! ## The parts of an export -/

open Element

@[simp] theorem primitiveType_id? (t : DataType) : (primitiveType t).id? = some (typeId t) := rfl

@[simp] theorem ownedAttribute_id? (e : Entity) (a : Attribute) :
    (ownedAttribute e a).id? = some (attributeId e a) := rfl

@[simp] theorem primitiveType_type (t : DataType) :
    (primitiveType t).attribute? "xmi:type" = some "uml:PrimitiveType" := rfl

@[simp] theorem ownedAttribute_type (e : Entity) (a : Attribute) :
    (ownedAttribute e a).attribute? "xmi:type" = none := rfl

/-- A class is written in one of two forms, but it looks alike in both. -/
theorem classElement_attributes (e : Entity) :
    (classElement e).attributes
      = [("xmi:type", "uml:Class"), ("xmi:id", classId e), ("name", e.name)] := by
  unfold classElement
  split <;> rfl

theorem classElement_tag (e : Entity) : (classElement e).tag = "packagedElement" := by
  unfold classElement
  split <;> rfl

@[simp] theorem classElement_id? (e : Entity) : (classElement e).id? = some (classId e) := by
  rw [id?, attribute?, classElement_attributes]
  rfl

@[simp] theorem classElement_type (e : Entity) :
    (classElement e).attribute? "xmi:type" = some "uml:Class" := by
  rw [attribute?, classElement_attributes]
  rfl

theorem classElement_children (e : Entity) :
    (classElement e).children = e.attributes.map (ownedAttribute e) := by
  unfold classElement
  split
  · rename_i hnone
    rw [List.isEmpty_iff.mp hnone]
    rfl
  · rfl

theorem classElement_all (e : Entity) :
    (classElement e).all = classElement e :: e.attributes.map (ownedAttribute e) := by
  rw [all_eq, classElement_children, allOf_map, List.map_eq_flatMap]
  rfl

variable {es : List Entity} {name : String}

/-- The class of an entity, and the attributes of the class. -/
def ofEntity (e : Entity) : List Element := classElement e :: e.attributes.map (ownedAttribute e)

/-- The element of the model, with the types and the classes within it. -/
def modelElement (es : List Entity) (name : String) : Element :=
  .nested "uml:Model" [("xmi:id", "model"), ("name", name)]
    ((declaredTypes es).map primitiveType ++ es.map classElement)

theorem all_ofEntities (es : List Entity) (name : String) :
    (ofEntities es name).all = ofEntities es name :: modelElement es name ::
      ((declaredTypes es).map primitiveType ++ es.flatMap ofEntity) := by
  have hpackaged : allOf ((declaredTypes es).map primitiveType ++ es.map classElement)
      = (declaredTypes es).map primitiveType ++ es.flatMap ofEntity := by
    rw [allOf_append, allOf_map, allOf_map, List.map_eq_flatMap]
    exact congrArg _ (List.flatMap_congr fun e _ => classElement_all e)
  rw [ofEntities, all, allOf, all, hpackaged, allOf, List.append_nil]
  rfl

/-- The identifiers of the class of an entity and of its attributes. -/
def entityIds (e : Entity) : List String := classId e :: e.attributes.map (attributeId e)

/-- Only the root has no identifier. -/
theorem map_id?_ofEntities (es : List Entity) (name : String) :
    (ofEntities es name).all.map id? = none :: ("model" ::
      ((declaredTypes es).map typeId ++ es.flatMap entityIds)).map some := by
  have hentity : ∀ e, (ofEntity e).map id? = (entityIds e).map some := by
    intro e
    simp [ofEntity, entityIds]
  have hroot : (ofEntities es name).id? = none := rfl
  have hmodel : (modelElement es name).id? = some "model" := rfl
  rw [all_ofEntities, List.map_cons, List.map_cons, hroot, hmodel, List.map_append,
    List.map_flatMap, List.flatMap_congr fun e _ => hentity e, List.map_cons, List.map_append,
    List.map_flatMap]
  simp

/-- **The identifiers of an export** are those of the model, the types, the classes and their
attributes. -/
theorem ids_ofEntities (es : List Entity) (name : String) : (ofEntities es name).ids
    = "model" :: ((declaredTypes es).map typeId ++ es.flatMap entityIds) := by
  have hids : (ofEntities es name).ids = ((ofEntities es name).all.map id?).filterMap id := by
    rw [List.filterMap_map]
    rfl
  rw [hids, map_id?_ofEntities, List.filterMap_cons_none rfl, List.filterMap_map]
  exact List.filterMap_some

theorem primitiveTypes_ofEntities (es : List Entity) (name : String) :
    (ofEntities es name).primitiveTypes = (declaredTypes es).map primitiveType := by
  -- classes and their attributes are of another kind
  have hclasses : (es.flatMap ofEntity).filter
      (fun e => e.attribute? "xmi:type" = some "uml:PrimitiveType") = [] := by
    rw [List.filter_eq_nil_iff]
    intro x hx
    obtain ⟨e, _, hx⟩ := List.mem_flatMap.mp hx
    rcases List.mem_cons.mp hx with rfl | hx
    · simp
    · obtain ⟨a, _, rfl⟩ := List.mem_map.mp hx
      simp
  have htypes : ((declaredTypes es).map primitiveType).filter
      (fun e => e.attribute? "xmi:type" = some "uml:PrimitiveType")
        = (declaredTypes es).map primitiveType := by
    rw [List.filter_eq_self]
    intro x hx
    obtain ⟨t, _, rfl⟩ := List.mem_map.mp hx
    simp
  have hroot : (ofEntities es name).attribute? "xmi:type" = none := rfl
  have hmodel : (modelElement es name).attribute? "xmi:type" = none := rfl
  rw [primitiveTypes, all_ofEntities, List.filter_cons_of_neg (by simp [hroot]),
    List.filter_cons_of_neg (by simp [hmodel]), List.filter_append, htypes, hclasses,
    List.append_nil]

theorem ownedAttributes_ofEntities (es : List Entity) (name : String) :
    (ofEntities es name).ownedAttributes
      = es.flatMap fun e => e.attributes.map (ownedAttribute e) := by
  have htypes : ((declaredTypes es).map primitiveType).filter (fun e => e.tag = "ownedAttribute")
      = [] := by
    rw [List.filter_eq_nil_iff]
    intro x hx
    obtain ⟨t, _, rfl⟩ := List.mem_map.mp hx
    simp [primitiveType, tag]
  -- of an entity's elements only the class itself is no attribute
  have hentity : ∀ e, (ofEntity e).filter (fun x => x.tag = "ownedAttribute")
      = e.attributes.map (ownedAttribute e) := by
    intro e
    rw [ofEntity, List.filter_cons_of_neg (by simp [classElement_tag]), List.filter_eq_self]
    intro x hx
    obtain ⟨a, _, rfl⟩ := List.mem_map.mp hx
    simp [ownedAttribute, tag]
  have hroot : (ofEntities es name).tag = "xmi:XMI" := rfl
  have hmodel : (modelElement es name).tag = "uml:Model" := rfl
  rw [ownedAttributes, all_ofEntities, List.filter_cons_of_neg (by simp [hroot]),
    List.filter_cons_of_neg (by simp [hmodel]), List.filter_append, htypes, List.nil_append,
    List.filter_flatMap]
  exact List.flatMap_congr fun e _ => hentity e

/-! ## An export is well-formed -/

theorem isTag_of_keys (keys : List String) (hkeys : ∀ key ∈ keys, IsTag key)
    {attributes : List (String × String)} (h : attributes.map Prod.fst = keys) :
    ∀ a ∈ attributes, IsTag a.1 := by
  intro a ha
  exact hkeys a.1 (h ▸ List.mem_map_of_mem ha)

theorem wellFormed_primitiveType (t : DataType) : (primitiveType t).WellFormed :=
  .empty (by decide) (isTag_of_keys ["xmi:type", "xmi:id", "name"] (by decide) rfl)

theorem wellFormed_ownedAttribute (e : Entity) (a : Attribute) : (ownedAttribute e a).WellFormed :=
  .empty (by decide) (isTag_of_keys ["xmi:id", "name", "type"] (by decide) rfl)

theorem wellFormed_classElement (e : Entity) : (classElement e).WellFormed := by
  have hkeys : ∀ a ∈ [("xmi:type", "uml:Class"), ("xmi:id", classId e), ("name", e.name)],
      IsTag a.1 := isTag_of_keys ["xmi:type", "xmi:id", "name"] (by decide) rfl
  unfold classElement
  split
  · exact .empty (by decide) hkeys
  · refine .nested (by decide) hkeys fun x hx => ?_
    obtain ⟨a, _, rfl⟩ := List.mem_map.mp hx
    exact wellFormed_ownedAttribute e a

theorem wellFormed_ofEntities (es : List Entity) (name : String) :
    (ofEntities es name).WellFormed := by
  have hpackaged : ∀ x ∈ (declaredTypes es).map primitiveType ++ es.map classElement,
      x.WellFormed := by
    intro x hx
    rcases List.mem_append.mp hx with hx | hx
    · obtain ⟨t, _, rfl⟩ := List.mem_map.mp hx
      exact wellFormed_primitiveType t
    · obtain ⟨e, _, rfl⟩ := List.mem_map.mp hx
      exact wellFormed_classElement e
  have hmodel : (modelElement es name).WellFormed :=
    .nested (by decide) (isTag_of_keys ["xmi:id", "name"] (by decide) rfl) hpackaged
  refine .nested (by decide)
    (isTag_of_keys ["xmi:version", "xmlns:xmi", "xmlns:uml"] (by decide) rfl) fun x hx => ?_
  obtain rfl := List.mem_singleton.mp hx
  exact hmodel

/-! ## The identifiers of an export -/

theorem mem_declaredTypes {t : DataType} :
    t ∈ declaredTypes es ↔ ∃ e ∈ es, ∃ a ∈ e.attributes, a.type = t := by
  simp [declaredTypes, List.mem_eraseDups]

theorem nodup_declaredTypes (es : List Entity) : (declaredTypes es).Nodup := by
  have hnodup := nodup_map_firsts id (es.flatMap fun e => e.attributes.map Attribute.type)
  rwa [List.map_id] at hnodup

theorem mem_entityIds {e : Entity} {id : String} :
    id ∈ entityIds e ↔ id = classId e ∨ ∃ a ∈ e.attributes, id = attributeId e a := by
  simp [entityIds, eq_comm]

theorem spelled_of_mem_declaredTypes (h : ∀ e ∈ es, e.Spelled) {t : DataType}
    (ht : t ∈ declaredTypes es) : t.Spelled := by
  obtain ⟨e, he, a, ha, rfl⟩ := mem_declaredTypes.mp ht
  exact ((h e he).attributes a ha).type

theorem nodup_entityIds {e : Entity} (he : e.Spelled)
    (hattributes : (e.attributes.map Attribute.name).Nodup) : (entityIds e).Nodup := by
  rw [entityIds, List.nodup_cons]
  constructor
  · intro h
    obtain ⟨a, _, ha⟩ := List.mem_map.mp h
    exact ne_attributeId (isName_classId he.name) e a ha.symm
  · rw [List.Nodup, List.pairwise_map] at hattributes ⊢
    exact hattributes.imp fun hne h => hne (attributeId_inj he.name he.name h).2

/-- Classes of different names have no identifier in common, nor have their attributes. -/
theorem name_eq_of_mem_entityIds {e e' : Entity} (he : e.Spelled) (he' : e'.Spelled) {id : String}
    (h : id ∈ entityIds e) (h' : id ∈ entityIds e') : e.name = e'.name := by
  rcases mem_entityIds.mp h with rfl | ⟨a, _, rfl⟩
  · rcases mem_entityIds.mp h' with hid | ⟨a', _, hid⟩
    · exact classId_inj hid
    · exact absurd hid (ne_attributeId (isName_classId he.name) e' a')
  · rcases mem_entityIds.mp h' with hid | ⟨a', _, hid⟩
    · exact absurd hid.symm (ne_attributeId (isName_classId he'.name) e a)
    · exact (attributeId_inj he.name he'.name hid).1

theorem typeId_not_mem_entityIds (t : DataType) (e : Entity) : typeId t ∉ entityIds e := by
  intro h
  rcases mem_entityIds.mp h with hid | ⟨a, _, hid⟩
  · exact typeId_ne_classId t e hid
  · exact ne_attributeId (isName_typeId t) e a hid

theorem model_not_mem_entityIds (e : Entity) : "model" ∉ entityIds e := by
  intro h
  rcases mem_entityIds.mp h with hid | ⟨a, _, hid⟩
  · exact model_ne_classId e hid
  · exact ne_attributeId (by decide) e a hid

/-- **The identifiers of an export are pairwise distinct.** -/
theorem nodup_ids (h : ∀ e ∈ es, e.Spelled) (hnames : (es.map Entity.name).Nodup)
    (hattributes : ∀ e ∈ es, (e.attributes.map Attribute.name).Nodup) (name : String) :
    (ofEntities es name).ids.Nodup := by
  have htypes : ((declaredTypes es).map typeId).Nodup := by
    refine (nodup_declaredTypes es).map_on fun t ht t' ht' => ?_
    exact typeId_inj (spelled_of_mem_declaredTypes h ht) (spelled_of_mem_declaredTypes h ht')
  -- within an entity the names of attributes tell its identifiers apart, between two the names of
  -- the entities
  have hentities : (es.flatMap entityIds).Nodup := by
    rw [List.nodup_flatMap]
    refine ⟨fun e he => nodup_entityIds (h e he) (hattributes e he), ?_⟩
    rw [List.Nodup, List.pairwise_map] at hnames
    refine hnames.imp_of_mem fun he he' hne id hid hid' => hne ?_
    exact name_eq_of_mem_entityIds (h _ he) (h _ he') hid hid'
  -- what is left: the model, the types and the entities share no identifier
  rw [ids_ofEntities, List.nodup_cons, List.nodup_append]
  refine ⟨fun hmem => ?_, htypes, hentities, ?_⟩
  · rcases List.mem_append.mp hmem with hid | hid
    · obtain ⟨t, _, ht⟩ := List.mem_map.mp hid
      exact typeId_ne_model t ht
    · obtain ⟨e, _, he⟩ := List.mem_flatMap.mp hid
      exact model_not_mem_entityIds e he
  · rintro id hid _ hid' rfl
    obtain ⟨t, _, rfl⟩ := List.mem_map.mp hid
    obtain ⟨e, _, he⟩ := List.mem_flatMap.mp hid'
    exact typeId_not_mem_entityIds t e he

/-! ## What refers to a type -/

/-- An element is the only one with its identifier. -/
theorem filter_id?_ofEntities (hids : (ofEntities es name).ids.Nodup) {x : Element}
    (hx : x ∈ (ofEntities es name).all) :
    (ofEntities es name).all.filter (fun y => y.id? = x.id?) = [x] := by
  refine filter_eq_singleton ?_ hx
  rw [ids_ofEntities] at hids
  rw [map_id?_ofEntities, List.nodup_cons]
  exact ⟨by simp, hids.map fun _ _ => Option.some.inj⟩

theorem nodup_tokens (h : ∀ e ∈ es, e.Spelled) :
    ((declaredTypes es).map DataType.token).Nodup := by
  refine (nodup_declaredTypes es).map_on fun t ht t' ht' htoken => ?_
  exact (spelled_of_mem_declaredTypes h ht).token_inj (spelled_of_mem_declaredTypes h ht') htoken

theorem map_name_primitiveTypes (es : List Entity) (name : String) :
    (ofEntities es name).primitiveTypes.map (·.attribute? "name")
      = (declaredTypes es).map fun t => some t.token := by
  rw [primitiveTypes_ofEntities, List.map_map]
  rfl

/-- A declared type is the only one whose primitive type has its word for a name. -/
theorem filter_name_primitiveTypes (h : ∀ e ∈ es, e.Spelled) {t : DataType}
    (ht : t ∈ declaredTypes es) :
    (ofEntities es name).primitiveTypes.filter (fun x => x.attribute? "name" = some t.token)
      = [primitiveType t] := by
  have hnames : ((ofEntities es name).primitiveTypes.map (·.attribute? "name")).Nodup := by
    have hsome := (nodup_tokens h).map fun _ _ => Option.some.inj
    rw [List.map_map] at hsome
    rwa [map_name_primitiveTypes]
  have hmem : primitiveType t ∈ (ofEntities es name).primitiveTypes := by
    rw [primitiveTypes_ofEntities]
    exact List.mem_map_of_mem ht
  exact filter_eq_singleton hnames hmem

end Xmi

namespace Plan

open Xmi

variable {mode : Undeclared} {text : String} {p : Plan}

namespace Regular

theorem mem_declaredTypes (hp : p.Regular) {t : DataType} :
    t ∈ declaredTypes p.entities ↔ p.schema.Declares t := by
  rw [Xmi.mem_declaredTypes]
  constructor
  · intro h
    obtain ⟨e, he, ha⟩ := h
    obtain ⟨name, he⟩ := hp.mem_entities.mp he
    exact ⟨name, e, he, ha⟩
  · intro h
    obtain ⟨name, e, he, ha⟩ := h
    exact ⟨e, hp.mem_entities.mpr ⟨name, he⟩, ha⟩

/-- The export of a plan refers to what it declares. -/
theorem identified (hp : p.Regular) (hspelled : ∀ e ∈ p.entities, e.Spelled)
    (hattributes : ∀ e ∈ p.entities, (e.attributes.map Attribute.name).Nodup) (model : String) :
    (ofEntities p.entities model).Identified p.schema where
  nodup := nodup_ids hspelled hp.nodup_names hattributes model
  mem := by
    intro id
    rw [ids_ofEntities, List.mem_cons, List.mem_append]
    -- a type is declared, or an identifier is that of an entity, for the plan as for its schema
    refine or_congr_right (or_congr ?_ ?_)
    · rw [List.mem_map]
      exact exists_congr fun t => and_congr hp.mem_declaredTypes eq_comm
    · rw [List.mem_flatMap]
      constructor
      · intro h
        obtain ⟨e, he, hid⟩ := h
        obtain ⟨name, he⟩ := hp.mem_entities.mp he
        exact ⟨name, e, he, mem_entityIds.mp hid⟩
      · intro h
        obtain ⟨name, e, he, hid⟩ := h
        exact ⟨e, hp.mem_entities.mpr ⟨name, he⟩, mem_entityIds.mpr hid⟩
  types := ⟨declaredTypes p.entities, nodup_tokens hspelled, fun _ => hp.mem_declaredTypes,
    map_name_primitiveTypes p.entities model⟩
  owned := by
    intro name e he a ha
    refine ⟨ownedAttribute e a, ?_, rfl⟩
    rw [ownedAttributes_ofEntities]
    exact List.mem_flatMap.mpr
      ⟨e, hp.mem_entities.mpr ⟨name, he⟩, List.mem_map_of_mem ha⟩
  refers := by
    intro o ho
    rw [ownedAttributes_ofEntities] at ho
    -- an attribute of the document comes from one of an entity, and its type was declared there
    obtain ⟨e, hmem, ho⟩ := List.mem_flatMap.mp ho
    obtain ⟨a, ha, rfl⟩ := List.mem_map.mp ho
    obtain ⟨name, he⟩ := hp.mem_entities.mp hmem
    have htype : a.type ∈ declaredTypes p.entities :=
      Xmi.mem_declaredTypes.mpr ⟨e, hmem, a, ha, rfl⟩
    have hprimitive : primitiveType a.type ∈ (ofEntities p.entities model).all := by
      rw [all_ofEntities]
      exact List.mem_cons_of_mem _ (List.mem_cons_of_mem _
        (List.mem_append_left _ (List.mem_map_of_mem htype)))
    -- identifiers are different, so the reference finds no other element
    have hids := nodup_ids hspelled hp.nodup_names hattributes model
    exact ⟨name, e, he, a, ha, rfl, rfl, typeId a.type, primitiveType a.type, rfl,
      filter_id?_ofEntities hids hprimitive, filter_name_primitiveTypes hspelled htype⟩

end Regular

/--
**Identifiers are unique, and every reference to a type resolves.**

For every text with a plan in which the attributes of each entity have different names, and every
name of the model: the document is read in one way. In it no two elements have one identifier, each
declared type has exactly one primitive type, and the type of an attribute is the identifier of one
element, which is the one primitive type with the word of the declared type for a name. Two words
for different types have different identifiers.
-/
theorem xmi_identified (h : ofText mode text = .ok p)
    (hattributes : ∀ name e, p.schema.entity? name = some e →
      (e.attributes.map Attribute.name).Nodup) (model : String) :
    (∃! d : Element, d.WellFormed ∧ d.render = p.xmi model) ∧
    (∀ d : Element, d.WellFormed → d.render = p.xmi model → d.Identified p.schema) ∧
    ∀ word word' : String, typeId (.ofToken word) = typeId (.ofToken word') →
      DataType.ofToken word = .ofToken word' := by
  have hwell := wellFormed_ofEntities p.entities model
  -- the text tells the document, so what holds of the export holds of any reading
  have hunique : ∀ d : Element, d.WellFormed → d.render = p.xmi model →
      d = ofEntities p.entities model := fun d hd htext => Element.render_inj hd hwell htext
  refine ⟨⟨_, ⟨hwell, rfl⟩, fun d hd => hunique d hd.1 hd.2⟩, fun d hd htext => ?_,
    fun word word' => typeId_inj ⟨word, rfl⟩ ⟨word', rfl⟩⟩
  have hp := regular_ofText h
  rw [hunique d hd htext]
  refine hp.identified (spelled_of_ofText h) (fun e he => ?_) model
  obtain ⟨name, he⟩ := hp.mem_entities.mp he
  exact hattributes name e he

/-- A table with two types that differ in a mark, and one that is only ever named. -/
def markedTypes : String :=
  "entity T \x7b\n  a : x-y\n  b : x_y\n  c : x-y\n\x7d\nT ||--o\x7b Ghost\n"

theorem xmi_identified_markedTypes :
    ∃ p, ofText .synthesize markedTypes = .ok p ∧
      (∀ name e, p.schema.entity? name = some e → (e.attributes.map Attribute.name).Nodup) ∧
      ∃ d : Element, d.WellFormed ∧ d.render = p.xmi "a<b" ∧ d.Identified p.schema ∧
        d.ids = ["model", "type_x_2d_y", "type_x_5f_y", "class_T", "T.a", "T.b", "T.c",
          "class_Ghost"] := by
  have heval : (ofText .synthesize markedTypes).toOption.any (fun p =>
      decide ((∀ e ∈ p.entities, (e.attributes.map Attribute.name).Nodup) ∧
        (ofEntities p.entities "a<b").ids = ["model", "type_x_2d_y", "type_x_5f_y", "class_T",
          "T.a", "T.b", "T.c", "class_Ghost"])) = true := by
    decide +kernel
  obtain ⟨p, hp, htest⟩ := exists_ok_of_any heval
  obtain ⟨hnames, hids⟩ := of_decide_eq_true htest
  have hattributes : ∀ name e, p.schema.entity? name = some e →
      (e.attributes.map Attribute.name).Nodup := by
    intro name e he
    exact hnames e ((regular_ofText hp).mem_entities.mpr ⟨name, he⟩)
  obtain ⟨_, hidentified, _⟩ := xmi_identified hp hattributes "a<b"
  have hwell := wellFormed_ofEntities p.entities "a<b"
  exact ⟨p, hp, hattributes, _, hwell, rfl, hidentified _ hwell rfl, hids⟩

end Plan

end Crowfoot
