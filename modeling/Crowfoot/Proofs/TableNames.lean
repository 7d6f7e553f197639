import Crowfoot.Proofs.Headings
import Crowfoot.Proofs.Identifiers
import Crowfoot.Proofs.Names
import Crowfoot.Proofs.Resolvable
import Crowfoot.Proofs.Topology

/-!
# The names of the tables

A dataset has one table for each entity, in their order, and then one for each join table. No two of
these have one name. No entity comes twice in the order, join tables of one name would be for one
pair, and a join table that is named like an entity is an error of the diagram.
-/

namespace Crowfoot

namespace Schema

variable {mode : Undeclared} {d : Diagram} {s : Schema} {t : JoinTable}

/-- **No two join tables have names that are alike.** -/
theorem apart_joinTables (h : resolve mode d = .ok s) :
    Apart (s.joinTables.map JoinTable.name) := by
  have hpairs : (firsts Relationship.pair d.pairings).Pairwise fun r r' => r.pair ≠ r'.pair :=
    List.pairwise_map.mp (nodup_map_firsts Relationship.pair d.pairings)
  have hkept := (firsts_sublist Relationship.pair d.pairings).subset
  rw [(reflects_resolve h).joins]
  unfold Diagram.joinTables
  rw [List.map_map]
  refine List.pairwise_map.mpr (hpairs.imp_of_mem fun hr hr' hne hsame => hne ?_)
  have hcoherent := (exists_resolve_iff.mp ⟨s, h⟩).toCoherent
  obtain ⟨hleft, hright⟩ := hcoherent.apart _ (hkept hr) _ (hkept hr') hsame
  exact Prod.ext hleft hright

theorem joinTable_name_ne (h : resolve mode d = .ok s) (ht : t ∈ s.joinTables) {name : String}
    (hname : name ∈ s.entities) : t.name ≠ name := by
  intro he
  refine List.find?_eq_none.mp (resolve_ok_iff.mp h).2 t ht (List.any_eq_true.mpr ⟨name, ?_, ?_⟩)
  · exact Std.ExtTreeMap.mem_keys.mpr hname
  · exact decide_eq_true (congrArg Text.foldCase he.symm)

/-- A join table of a text is for a pair of names. -/
theorem exists_ofPair {text : String} (h : resolve mode (.ofText text) = .ok s)
    (ht : t ∈ s.joinTables) :
    ∃ left right line, IsName left ∧ IsName right ∧ t = .ofPair left right line := by
  rw [(reflects_resolve h).joins] at ht
  obtain ⟨r, hr, rfl⟩ := Diagram.mem_joinTables ht
  have hends : ∀ name, name = r.left ∨ name = r.right → IsName name := fun name hname =>
    Diagram.isName_of_mem_ends (Diagram.mem_ends.mpr ⟨r, (Diagram.mem_pairings.mp hr).1, hname⟩)
  exact ⟨r.left, r.right, r.line, hends r.left (Or.inl rfl), hends r.right (Or.inr rfl), rfl⟩

/-- The name of a join table is glued from names. -/
theorem isName_joinTable {text : String} (h : resolve mode (.ofText text) = .ok s)
    (ht : t ∈ s.joinTables) : IsName t.name := by
  obtain ⟨left, right, _, hleft, hright, rfl⟩ := exists_ofPair h ht
  have hglue : "_".toList.all Line.isNameChar = true := by decide
  exact (hleft.append (List.all_eq_true.mp hglue)).append hright.2

end Schema

namespace Plan

variable {mode : Undeclared} {text : String} {p : Plan}

/-- The entities of a plan, in the order of their dependencies. -/
def entities (p : Plan) : List Entity := p.order.entities.filterMap p.schema.entity?

namespace Regular

theorem nodup_order (hp : p.Regular) : p.order.entities.Nodup := by
  rw [hp.order_eq]
  exact DependencyOrder.ofSchema_nodup p.schema

theorem mem_order (hp : p.Regular) {name : String} :
    name ∈ p.order.entities ↔ name ∈ p.schema.entities := by
  rw [hp.order_eq]
  exact DependencyOrder.mem_ofSchema_iff_of_linked hp.linked name

theorem mem_entities (hp : p.Regular) {e : Entity} :
    e ∈ p.entities ↔ ∃ name, p.schema.entity? name = some e := by
  constructor
  · intro h
    obtain ⟨name, _, he⟩ := List.mem_filterMap.mp h
    exact ⟨name, he⟩
  · intro h
    obtain ⟨name, he⟩ := h
    have hname := (p.schema.mem_entities_iff name).mpr ⟨e, he⟩
    exact List.mem_filterMap.mpr ⟨name, hp.mem_order.mpr hname, he⟩

theorem nodup_names (hp : p.Regular) : (p.entities.map Entity.name).Nodup := by
  unfold entities
  rw [List.map_filterMap]
  refine hp.nodup_order.filterMap fun a b name ha hb => ?_
  obtain ⟨e, he, rfl⟩ := Option.map_eq_some_iff.mp ha
  obtain ⟨e', he', hname⟩ := Option.map_eq_some_iff.mp hb
  rw [(hp.proper a e he).named, (hp.proper b e' he').named] at hname
  exact hname.symm

end Regular

theorem spelled_of_ofText (h : ofText mode text = .ok p) : ∀ e ∈ p.entities, e.Spelled := by
  intro e he
  obtain ⟨name, _, he⟩ := List.mem_filterMap.mp he
  exact Schema.spelled_of_resolve (resolve_of_ofText h).1 he

/-- The names of the tables: those of the entities in their order, then those of the joins. -/
def tableNames (p : Plan) : List String :=
  p.order.entities ++ p.schema.joinTables.map JoinTable.name

/-- **No two tables have one name.** -/
theorem nodup_tableNames (h : ofText mode text = .ok p) : p.tableNames.Nodup := by
  have hp := regular_ofText h
  obtain ⟨hs, _⟩ := resolve_of_ofText h
  refine List.nodup_append.mpr ⟨hp.nodup_order, (Schema.apart_joinTables hs).nodup, ?_⟩
  intro name hname other hother he
  obtain ⟨t, ht, rfl⟩ := List.mem_map.mp hother
  exact Schema.joinTable_name_ne hs ht (hp.mem_order.mp hname) he.symm

/-- A table has a name in which nothing but letters, numbers and underscores stands. -/
theorem isName_of_mem_tableNames (h : ofText mode text = .ok p) {name : String}
    (hname : name ∈ p.tableNames) : IsName name := by
  have hp := regular_ofText h
  obtain ⟨hs, _⟩ := resolve_of_ofText h
  rcases List.mem_append.mp hname with hname | hname
  · obtain ⟨e, he⟩ := (p.schema.mem_entities_iff name).mp (hp.mem_order.mp hname)
    rw [← (hp.proper name e he).named]
    exact (Schema.spelled_of_resolve hs he).name
  · obtain ⟨t, ht, rfl⟩ := List.mem_map.mp hname
    exact Schema.isName_joinTable hs ht

end Plan

end Crowfoot
