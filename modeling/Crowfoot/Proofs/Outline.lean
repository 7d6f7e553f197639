import Crowfoot.Proofs.Export

/-!
# What an export shows

An export shows the entities in their order and, of each, the names and the declared types of its
attributes. This is the outline of a plan. Nothing of it is lost, and nothing else of the plan can
be seen in the document, be it a key, a mark or a relationship.

That nothing is lost is read off the document: the classes in it come behind the types, a class
gives the name of its entity, and an attribute of the class its own name and the identifier of its
type, which is that of one word only.
-/

namespace Crowfoot

/-- If one image of two lists shows another, then lists with the first in common have the second. -/
theorem map_eq_of_map_eq {α α' β γ : Type} {f : α → β} {f' : α' → β} {g : α → γ} {g' : α' → γ}
    {l : List α} {l' : List α'} (h : ∀ a ∈ l, ∀ a' ∈ l', f a = f' a' → g a = g' a')
    (hmap : l.map f = l'.map f') : l.map g = l'.map g' := by
  induction l generalizing l' with
  | nil =>
    rw [List.map_nil, eq_comm, List.map_eq_nil_iff] at hmap
    rw [hmap]
    rfl
  | cons a rest ih =>
    cases l' with
    | nil => exact absurd hmap nofun
    | cons a' rest' =>
      obtain ⟨hhead, htail⟩ := List.cons.inj hmap
      -- the heads agree in the first image, and the rest by induction
      have hrest := ih
        (fun b hb b' hb' => h b (List.mem_cons_of_mem _ hb) b' (List.mem_cons_of_mem _ hb')) htail
      rw [List.map_cons, List.map_cons, hrest,
        h a (List.mem_cons_self ..) a' (List.mem_cons_self ..) hhead]

/-- The name and the declared type. -/
def Attribute.outline (a : Attribute) : String × DataType := (a.name, a.type)

/-- The name, and the outlines of the attributes in their order. -/
def Entity.outline (e : Entity) : String × List (String × DataType) :=
  (e.name, e.attributes.map Attribute.outline)

/-- The outlines of the entities, in the order of their dependencies. -/
def Plan.outline (p : Plan) : List (String × List (String × DataType)) :=
  p.entities.map Entity.outline

namespace Xmi

open Element

variable {e e' : Entity} {es es' : List Entity} {name name' : String}

/-! ## From the document to the outline -/

theorem ownedAttribute_inj {a a' : Attribute} (ha : a.Spelled) (ha' : a'.Spelled)
    (h : ownedAttribute e a = ownedAttribute e' a') : a.outline = a'.outline := by
  have hvalues := congrArg Element.attributes h
  simp only [ownedAttribute, Element.attributes, List.cons.injEq, Prod.mk.injEq, true_and,
    and_true] at hvalues
  exact Prod.ext hvalues.2.1 (typeId_inj ha.type ha'.type hvalues.2.2)

/-- A class shows the outline of its entity. -/
theorem classElement_inj (he : e.Spelled) (he' : e'.Spelled)
    (h : classElement e = classElement e') : e.outline = e'.outline := by
  have hvalues := congrArg Element.attributes h
  rw [classElement_attributes, classElement_attributes] at hvalues
  simp only [List.cons.injEq, Prod.mk.injEq, true_and, and_true] at hvalues
  have hchildren := congrArg Element.children h
  rw [classElement_children, classElement_children] at hchildren
  refine Prod.ext hvalues.2 (map_eq_of_map_eq (fun a ha a' ha' hattribute => ?_) hchildren)
  exact ownedAttribute_inj (he.attributes a ha) (he'.attributes a' ha') hattribute

/-- The classes are told from the types by what they say they are. -/
theorem filter_class (es : List Entity) :
    ((declaredTypes es).map primitiveType ++ es.map classElement).filter
      (fun x => x.attribute? "xmi:type" = some "uml:Class") = es.map classElement := by
  have htypes : ((declaredTypes es).map primitiveType).filter
      (fun x => x.attribute? "xmi:type" = some "uml:Class") = [] := by
    rw [List.filter_eq_nil_iff]
    intro x hx
    obtain ⟨t, _, rfl⟩ := List.mem_map.mp hx
    simp
  rw [List.filter_append, htypes, List.nil_append, List.filter_eq_self]
  intro x hx
  obtain ⟨e, _, rfl⟩ := List.mem_map.mp hx
  simp

/-- **An export shows the name of the model and the outlines of the entities.** -/
theorem ofEntities_inj (hes : ∀ e ∈ es, e.Spelled) (hes' : ∀ e ∈ es', e.Spelled)
    (h : ofEntities es name = ofEntities es' name') :
    name = name' ∧ es.map Entity.outline = es'.map Entity.outline := by
  have hmodel : modelElement es name = modelElement es' name' :=
    List.singleton_inj.mp (congrArg Element.children h)
  have hvalues := congrArg Element.attributes hmodel
  simp only [modelElement, Element.attributes, List.cons.injEq, Prod.mk.injEq, true_and,
    and_true] at hvalues
  have hclasses := congrArg (fun x => x.children.filter
    fun x => x.attribute? "xmi:type" = some "uml:Class") hmodel
  have hclasses : es.map classElement = es'.map classElement := by
    rw [← filter_class es, ← filter_class es']
    exact hclasses
  exact ⟨hvalues, map_eq_of_map_eq
    (fun e he e' he' hclass => classElement_inj (hes e he) (hes' e' he') hclass) hclasses⟩

/-! ## From the outline to the document -/

theorem ownedAttribute_congr {a a' : Attribute} (hname : e.name = e'.name)
    (h : a.outline = a'.outline) : ownedAttribute e a = ownedAttribute e' a' := by
  obtain ⟨hattribute, htype⟩ := Prod.mk.inj h
  rw [ownedAttribute, ownedAttribute, attributeId, attributeId, hname, hattribute, htype]

theorem classElement_congr (h : e.outline = e'.outline) : classElement e = classElement e' := by
  obtain ⟨hname, hattributes⟩ := Prod.mk.inj h
  have hchildren : e.attributes.map (ownedAttribute e) = e'.attributes.map (ownedAttribute e') :=
    map_eq_of_map_eq (fun a _ a' _ => ownedAttribute_congr hname) hattributes
  have hempty : e.attributes.isEmpty = e'.attributes.isEmpty := by
    have hlength := congrArg List.isEmpty hattributes
    rwa [List.isEmpty_map, List.isEmpty_map] at hlength
  rw [classElement, classElement, classId, classId, hname, hempty, hchildren]

/-- **An export depends on the outlines of the entities only.** -/
theorem ofEntities_congr (h : es.map Entity.outline = es'.map Entity.outline) (name : String) :
    ofEntities es name = ofEntities es' name := by
  have hclasses : es.map classElement = es'.map classElement :=
    map_eq_of_map_eq (fun _ _ _ _ => classElement_congr) h
  have htypes : es.map (fun e => e.attributes.map Attribute.type)
      = es'.map fun e => e.attributes.map Attribute.type := by
    refine map_eq_of_map_eq (fun e _ e' _ houtline => ?_) h
    exact map_eq_of_map_eq (fun a _ a' _ ha => (Prod.mk.inj ha).2) (Prod.mk.inj houtline).2
  have hdeclared : declaredTypes es = declaredTypes es' := by
    rw [declaredTypes, declaredTypes, List.flatMap_def, List.flatMap_def, htypes]
  rw [ofEntities, ofEntities, hdeclared, hclasses]

end Xmi

namespace Plan

open Xmi

/--
**An export loses nothing of the outline and shows nothing else.**

For all texts with plans and all names of models: two documents are equal if and only if the names
are, and the plans have the same entities in the same order with the same names and types of
attributes.
-/
theorem xmi_eq_iff {mode mode' : Undeclared} {text text' : String} {p p' : Plan}
    (h : ofText mode text = .ok p) (h' : ofText mode' text' = .ok p') (model model' : String) :
    p.xmi model = p'.xmi model' ↔ model = model' ∧ p.outline = p'.outline := by
  constructor
  · intro htext
    have helement : ofEntities p.entities model = ofEntities p'.entities model' :=
      Element.render_inj (wellFormed_ofEntities ..) (wellFormed_ofEntities ..) htext
    exact ofEntities_inj (spelled_of_ofText h) (spelled_of_ofText h') helement
  · rintro ⟨rfl, houtline⟩
    exact congrArg Element.render (ofEntities_congr houtline model)

/-- A parent with a key and its child. -/
def keyedPair : String :=
  "entity A \x7b\n  id : number <<generated>>\n\x7d\nentity B \x7b\n  name : text\n\x7d\n"
    ++ "A ||--o\x7b B\n"

/-- The same two without the key and the relationship, one attribute being mandatory. -/
def unkeyedPair : String :=
  "entity A \x7b\n  id : NUMBER\n\x7d\nentity B \x7b\n  * name : text\n\x7d\n"

theorem xmi_eq_iff_pairs :
    ∃ p p', ofText .synthesize keyedPair = .ok p ∧ ofText .reject unkeyedPair = .ok p' ∧
      p.schema.keysOf "B" ≠ p'.schema.keysOf "B" ∧ p.xmi "m" = p'.xmi "m" ∧
      p.xmi "m" ≠ p'.xmi "m " := by
  have heval : (ofText .synthesize keyedPair).toOption.any (fun p =>
      decide (p.outline = [("A", [("id", .number)]), ("B", [("name", .text)])] ∧
        p.schema.keysOf "B" ≠ [])) = true := by
    decide +kernel
  have heval' : (ofText .reject unkeyedPair).toOption.any (fun p =>
      decide (p.outline = [("A", [("id", .number)]), ("B", [("name", .text)])] ∧
        p.schema.keysOf "B" = [])) = true := by
    decide +kernel
  obtain ⟨p, hp, htest⟩ := exists_ok_of_any heval
  obtain ⟨p', hp', htest'⟩ := exists_ok_of_any heval'
  obtain ⟨houtline, hkeys⟩ := of_decide_eq_true htest
  obtain ⟨houtline', hkeys'⟩ := of_decide_eq_true htest'
  refine ⟨p, p', hp, hp', hkeys' ▸ hkeys, ?_, fun he => ?_⟩
  · exact (xmi_eq_iff hp hp' "m" "m").mpr ⟨rfl, houtline.trans houtline'.symm⟩
  · exact absurd ((xmi_eq_iff hp hp' "m" "m ").mp he).1 (by decide)

end Plan

end Crowfoot
