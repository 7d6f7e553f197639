import Crowfoot.Proofs.Firsts
import Crowfoot.Proofs.Linked
import Mathlib.Tactic.Tauto

/-!
# The schema read off the diagram

What the scan over the relationships builds step by step can be read off the diagram at once. An
entity is the declared one or a placeholder. The keys of a child are one for each column, from the
first parent that asks for it. The join tables are one for each pair, from the first relationship
that pairs the two.

`Reflects` says that a schema is what its diagram reads as. Adding one relationship to both keeps
it, and the rest is an induction over the relationships that are still to come.
-/

namespace Crowfoot

open Text

/-! ## What a diagram reads as -/

/-- The child and the parent of a one-to-many relationship. -/
def Relationship.reference? (r : Relationship) : Option (String × String) :=
  match r.connector.cardinality with
  | .oneToMany .left => some (r.right, r.left)
  | .oneToMany .right => some (r.left, r.right)
  | .manyToMany => none

/-- The relationship is many-to-many. -/
def Relationship.Pairs (r : Relationship) : Prop := r.connector.cardinality = .manyToMany

instance (r : Relationship) : Decidable r.Pairs := inferInstanceAs (Decidable (_ = _))

/-- The two entities of a relationship, as they are written. -/
def Relationship.pair (r : Relationship) : String × String := (r.left, r.right)

theorem Relationship.link_of_reference {r : Relationship} {child parent : String}
    (h : r.reference? = some (child, parent)) : r.link = .reference child parent ∧ ¬ r.Pairs := by
  unfold reference? at h
  unfold link Pairs
  split at h <;> rename_i hc <;> rw [hc] <;> simp_all

theorem Relationship.link_of_pairs {r : Relationship} (h : r.Pairs) :
    r.link = .pairing r.left r.right ∧ r.reference? = none := by
  unfold link reference?
  rw [h]
  exact ⟨rfl, rfl⟩

theorem Relationship.reference_or_pairs (r : Relationship) :
    (∃ child parent, r.reference? = some (child, parent)) ∨ r.Pairs := by
  unfold reference? Pairs
  split
  · exact Or.inl ⟨_, _, rfl⟩
  · exact Or.inl ⟨_, _, rfl⟩
  · rename_i h
    exact Or.inr h

namespace Diagram

/-- The names at the ends of the relationships. -/
def ends (d : Diagram) : List String := d.relationships.flatMap fun r => [r.left, r.right]

/-- The children and parents of the one-to-many relationships, in their order. -/
def references (d : Diagram) : List (String × String) :=
  d.relationships.filterMap Relationship.reference?

/-- The many-to-many relationships, in their order. -/
def pairings (d : Diagram) : List Relationship := d.relationships.filter (·.Pairs)

/-- The entity of that name as it is declared, or one that stands in for it. -/
def entityOf (d : Diagram) (name : String) : Entity := d.entities[name]?.getD (.placeholder name)

/-- The entity of a name that is declared or stands at the end of a relationship. -/
def entity? (d : Diagram) (name : String) : Option Entity :=
  if name ∈ d.entities ∨ name ∈ d.ends then some (d.entityOf name) else none

/-- The key by which the child refers to the parent. -/
def keyTo (d : Diagram) (child parent : String) : ForeignKey :=
  ⟨(d.entityOf child).referenceColumn parent, parent, (d.entityOf parent).primaryKey⟩

/-- The parents that relationships give a child, in their order. -/
def parentsOf (d : Diagram) (child : String) : List String :=
  (d.references.filter (·.1 = child)).map Prod.snd

/-- The keys of a child: one for each column, to the parent that is the first to have it. -/
def keysOf (d : Diagram) (child : String) : List ForeignKey :=
  firsts (foldCase ·.column) ((d.parentsOf child).map (d.keyTo child))

/-- The join tables: one for each pair, for the relationship that is the first to have it. -/
def joinTables (d : Diagram) : List JoinTable :=
  (firsts Relationship.pair d.pairings).map fun r => .ofPair r.left r.right r.line

/-- The diagram with one more relationship. -/
def add (d : Diagram) (r : Relationship) : Diagram :=
  { d with relationships := d.relationships ++ [r] }

variable {d : Diagram} {r : Relationship}

theorem mem_ends_add {name : String} :
    name ∈ (d.add r).ends ↔ name ∈ d.ends ∨ name = r.left ∨ name = r.right := by
  simp [ends, add]

theorem references_add : (d.add r).references = d.references ++ r.reference?.toList := by
  unfold references add
  cases h : r.reference? <;> simp [h]

theorem pairings_add : (d.add r).pairings = d.pairings ++ if r.Pairs then [r] else [] := by
  by_cases h : r.Pairs <;> simp [pairings, add, h]

theorem entity?_add (name : String) :
    (d.add r).entity? name =
      if name = r.left ∨ name = r.right then some (d.entityOf name) else d.entity? name := by
  unfold entity?
  -- an end of the new relationship, or one that the diagram had before
  have hiff : name ∈ (d.add r).entities ∨ name ∈ (d.add r).ends ↔
      (name = r.left ∨ name = r.right) ∨ name ∈ d.entities ∨ name ∈ d.ends := by
    rw [mem_ends_add]
    show name ∈ d.entities ∨ _ ↔ _
    tauto
  rw [if_congr hiff rfl rfl]
  by_cases h : name = r.left ∨ name = r.right
  · rw [if_pos h, if_pos (Or.inl h)]
    rfl
  · rw [if_neg h]
    simp only [h, false_or]
    rfl

theorem parentsOf_add_self {child parent : String} (h : r.reference? = some (child, parent)) :
    (d.add r).parentsOf child = d.parentsOf child ++ [parent] := by
  unfold parentsOf
  rw [references_add, h]
  simp

theorem parentsOf_add_other {child : String} (h : ∀ parent, r.reference? ≠ some (child, parent)) :
    (d.add r).parentsOf child = d.parentsOf child := by
  unfold parentsOf
  rw [references_add, List.filter_append]
  have hnone : r.reference?.toList.filter (·.1 = child) = [] := by
    rw [List.filter_eq_nil_iff]
    intro e he hchild
    obtain ⟨c, parent⟩ := e
    obtain rfl : c = child := of_decide_eq_true hchild
    exact h parent (Option.mem_toList.mp he)
  rw [hnone, List.append_nil]

/-- A reference adds a key in a column that no key of the child has. -/
theorem keysOf_add_self {child parent : String} (h : r.reference? = some (child, parent)) :
    (d.add r).keysOf child =
      if foldCase (d.keyTo child parent).column ∈ (d.keysOf child).map (foldCase ·.column)
      then d.keysOf child else d.keysOf child ++ [d.keyTo child parent] := by
  unfold keysOf
  rw [parentsOf_add_self h, List.map_append, List.map_singleton]
  by_cases hmem : foldCase (d.keyTo child parent).column ∈
      (firsts (foldCase ·.column) ((d.parentsOf child).map (d.keyTo child))).map (foldCase ·.column)
  · rw [if_pos hmem]
    exact firsts_concat_of_mem hmem
  · rw [if_neg hmem]
    exact firsts_concat_of_not_mem hmem

theorem keysOf_add_other {child : String} (h : ∀ parent, r.reference? ≠ some (child, parent)) :
    (d.add r).keysOf child = d.keysOf child := by
  unfold keysOf
  rw [parentsOf_add_other h]
  rfl

theorem joinTables_add_reference (h : ¬ r.Pairs) : (d.add r).joinTables = d.joinTables := by
  unfold joinTables
  rw [pairings_add, if_neg h, List.append_nil]

/-- A pairing adds a table for a pair that has none. -/
theorem joinTables_add_pairs (h : r.Pairs) :
    (d.add r).joinTables =
      if ∃ t ∈ d.joinTables, t.left.entity = r.left ∧ t.right.entity = r.right
      then d.joinTables else d.joinTables ++ [.ofPair r.left r.right r.line] := by
  have hiff : (∃ t ∈ d.joinTables, t.left.entity = r.left ∧ t.right.entity = r.right) ↔
      r.pair ∈ (firsts Relationship.pair d.pairings).map Relationship.pair := by
    simp [joinTables, Relationship.pair, JoinTable.ofPair]
  by_cases hpair : ∃ t ∈ d.joinTables, t.left.entity = r.left ∧ t.right.entity = r.right
  · rw [if_pos hpair]
    unfold joinTables
    rw [pairings_add, if_pos h, firsts_concat_of_mem (hiff.mp hpair)]
  · rw [if_neg hpair]
    unfold joinTables
    rw [pairings_add, if_pos h, firsts_concat_of_not_mem fun hm => hpair (hiff.mpr hm),
      List.map_append, List.map_singleton]

theorem mem_joinTables {t : JoinTable} (ht : t ∈ d.joinTables) :
    ∃ r ∈ d.pairings, t = .ofPair r.left r.right r.line := by
  obtain ⟨r, hr, he⟩ := List.mem_map.mp ht
  exact ⟨r, (firsts_sublist _ _).subset hr, he.symm⟩

theorem exists_joinTable (h : r ∈ d.pairings) :
    ∃ t ∈ d.joinTables, t.left.entity = r.left ∧ t.right.entity = r.right := by
  have hpair : r.pair ∈ (firsts Relationship.pair d.pairings).map Relationship.pair :=
    mem_map_firsts.mpr (List.mem_map_of_mem h)
  obtain ⟨r', hr', he⟩ := List.mem_map.mp hpair
  exact ⟨_, List.mem_map_of_mem hr', congrArg Prod.fst he, congrArg Prod.snd he⟩

end Diagram

/-! ## What a relationship does to a schema -/

namespace Schema

/-- The schema with an entity of that name, a placeholder if it has none. -/
def ensured (s : Schema) (name : String) : Schema :=
  if name ∈ s.entities then s else { s with entities := s.entities.insert name (.placeholder name) }

/-- The schema with both entities of the relationship. -/
def withBoth (s : Schema) (r : Relationship) : Schema := (s.ensured r.left).ensured r.right

variable {s s' : Schema} {d : Diagram} {r : Relationship} {mode : Undeclared}

@[simp] theorem ensured_foreignKeys (s : Schema) (name : String) :
    (s.ensured name).foreignKeys = s.foreignKeys := by
  unfold ensured
  split <;> rfl

@[simp] theorem ensured_joinTables (s : Schema) (name : String) :
    (s.ensured name).joinTables = s.joinTables := by
  unfold ensured
  split <;> rfl

theorem ensured_entity? (s : Schema) (name other : String) :
    (s.ensured name).entity? other =
      if other = name then some ((s.entity? other).getD (.placeholder other))
      else s.entity? other := by
  unfold ensured
  split
  · rename_i hin
    obtain ⟨e, he⟩ := (s.mem_entities_iff name).mp hin
    split
    · rename_i hname
      rw [hname, he]
      rfl
    · rfl
  · rename_i hnew
    -- what is ensured is new, and nothing else changes
    have hnone : s.entity? name = none := by
      cases he : s.entity? name with
      | none => rfl
      | some e => exact absurd ((s.mem_entities_iff name).mpr ⟨e, he⟩) hnew
    show (s.entities.insert name (.placeholder name))[other]? = _
    rw [Named.getElem?_insert]
    by_cases hname : other = name
    · rw [if_pos hname.symm, if_pos hname, hname, hnone]
      rfl
    · rw [if_neg (Ne.symm hname), if_neg hname]
      rfl

theorem withBoth_foreignKeys (s : Schema) (r : Relationship) :
    (s.withBoth r).foreignKeys = s.foreignKeys := by
  simp only [withBoth, ensured_foreignKeys]

theorem withBoth_joinTables (s : Schema) (r : Relationship) :
    (s.withBoth r).joinTables = s.joinTables := by
  simp only [withBoth, ensured_joinTables]

theorem withEntity_ok_iff {name : String} :
    s.withEntity mode r name = .ok s' ↔
      (mode = .synthesize ∨ name ∈ s.entities) ∧ s' = s.ensured name := by
  unfold withEntity ensured
  split
  · rename_i hin
    simp [hin, eq_comm]
  · rename_i hnew
    cases mode <;> simp [hnew, eq_comm]

/-- Both entities are there in the end, and in strict mode they were before. -/
theorem withEnds_ok_iff :
    s.withEnds mode r = .ok s' ↔
      (mode = .synthesize ∨ r.left ∈ s.entities ∧ r.right ∈ s.entities) ∧ s' = s.withBoth r := by
  unfold withEnds withBoth
  rw [bind_eq_ok]
  simp only [withEntity_ok_iff]
  constructor
  · intro h
    obtain ⟨s₁, ⟨hleft, rfl⟩, hright, rfl⟩ := h
    refine ⟨?_, rfl⟩
    rcases hleft with hmode | hleft
    · exact Or.inl hmode
    · -- the left end was there, so nothing was made before the right one was looked for
      unfold ensured at hright
      rw [if_pos hleft] at hright
      exact hright.imp_right fun hr => ⟨hleft, hr⟩
  · intro h
    obtain ⟨hends, rfl⟩ := h
    refine ⟨_, ⟨hends.imp_right And.left, rfl⟩, ?_, rfl⟩
    rcases hends with hmode | ⟨hleft, hright⟩
    · exact Or.inl hmode
    · unfold ensured
      rw [if_pos hleft]
      exact Or.inr hright

theorem relate_ok_iff :
    s.relate mode r = .ok s' ↔
      (mode = .synthesize ∨ r.left ∈ s.entities ∧ r.right ∈ s.entities) ∧
        (s.withBoth r).addLink r = .ok s' := by
  unfold relate
  rw [bind_eq_ok]
  simp only [withEnds_ok_iff]
  constructor
  · intro h
    obtain ⟨s₁, ⟨hends, rfl⟩, hlink⟩ := h
    exact ⟨hends, hlink⟩
  · intro h
    obtain ⟨hends, hlink⟩ := h
    exact ⟨_, ⟨hends, rfl⟩, hlink⟩

theorem hasKeyColumn_iff {child column : String} :
    s.hasKeyColumn child column = true ↔
      foldCase column ∈ (s.keysOf child).map (foldCase ·.column) := by
  unfold hasKeyColumn
  rw [List.any_eq_true, List.mem_map]
  constructor
  · intro h
    obtain ⟨k, hk, hsame⟩ := h
    exact ⟨k, hk, of_decide_eq_true hsame⟩
  · intro h
    obtain ⟨k, hk, hsame⟩ := h
    exact ⟨k, hk, decide_eq_true hsame⟩

/-- A child has one more key if none of its keys has the column. -/
theorem addReference_keysOf_self (s : Schema) (child parent : String) :
    (s.addReference child parent).keysOf child =
      if foldCase (s.referenceTo child parent).column ∈ (s.keysOf child).map (foldCase ·.column)
      then s.keysOf child else s.keysOf child ++ [s.referenceTo child parent] := by
  have hcolumn : (s.referenceTo child parent).column = s.referenceColumn child parent := rfl
  unfold addReference
  rw [hcolumn]
  by_cases hhas : s.hasKeyColumn child (s.referenceColumn child parent) = true
  · rw [if_pos (hasKeyColumn_iff.mp hhas)]
    simp only [hhas, if_true]
  · rw [if_neg fun hm => hhas (hasKeyColumn_iff.mpr hm)]
    simp only [hhas]
    exact (keysOf_insert s child child _).trans (if_pos rfl)

theorem addReference_keysOf_other (s : Schema) {child parent other : String} (h : child ≠ other) :
    (s.addReference child parent).keysOf other = s.keysOf other := by
  unfold addReference
  dsimp only
  split
  · rfl
  · exact (keysOf_insert s child other _).trans (if_neg h)

theorem addReference_rest (s : Schema) (child parent : String) :
    (s.addReference child parent).entities = s.entities ∧
      (s.addReference child parent).joinTables = s.joinTables := by
  unfold addReference
  dsimp only
  split <;> exact ⟨rfl, rfl⟩

theorem joinTable?_some {name : String} {t : JoinTable} (h : s.joinTable? name = some t) :
    t ∈ s.joinTables ∧ SameName t.name name :=
  ⟨List.mem_of_find?_eq_some h, by simpa using List.find?_some h⟩

theorem joinTable?_none {name : String} (h : s.joinTable? name = none) :
    ∀ t ∈ s.joinTables, ¬ SameName t.name name := by
  intro t ht hsame
  exact List.find?_eq_none.mp h t ht (decide_eq_true hsame)

/-- A pair has a table already, or gets one under a name that is free. -/
theorem addPairing_cases {left right : String} {line : Nat}
    (h : s.addPairing left right line = .ok s') :
    ((∃ t ∈ s.joinTables, t.left.entity = left ∧ t.right.entity = right) ∧ s' = s) ∨
    ((∀ t ∈ s.joinTables, ¬ SameName t.name (joinName left right)) ∧
      s' = { s with joinTables := s.joinTables ++ [.ofPair left right line] }) := by
  unfold addPairing at h
  split at h
  · rename_i t ht
    split at h
    · rename_i hpair
      exact Or.inl ⟨⟨t, (joinTable?_some ht).1, hpair⟩, (Except.ok.inj h).symm⟩
    · exact absurd h (by simp)
  · rename_i hnone
    exact Or.inr ⟨joinTable?_none hnone, (Except.ok.inj h).symm⟩

/-- A pair is refused if the first table of its name is for another pair. -/
theorem exists_addPairing_iff {left right : String} {line : Nat} :
    (∃ s', s.addPairing left right line = .ok s') ↔
      ∀ t, s.joinTable? (joinName left right) = some t →
        t.left.entity = left ∧ t.right.entity = right := by
  unfold addPairing
  cases s.joinTable? (joinName left right) with
  | none => simp
  | some t =>
    by_cases hpair : t.left.entity = left ∧ t.right.entity = right
    · simp [hpair]
    · simp [hpair]

/-! ## Every relationship keeps the reading -/

/-- The schema is what the diagram reads as. -/
structure Reflects (s : Schema) (d : Diagram) : Prop where
  entities : ∀ name, s.entity? name = d.entity? name
  keys : ∀ child, s.keysOf child = d.keysOf child
  joins : s.joinTables = d.joinTables

theorem reflects_ofEntities (d : Diagram) : (ofEntities d).Reflects ⟨d.entities, []⟩ where
  entities := by
    intro name
    show d.entities[name]? = _
    unfold Diagram.entity? Diagram.entityOf
    cases he : d.entities[name]? with
    | some e =>
      have hin : name ∈ d.entities := (Named.mem_iff_getElem? ..).mpr ⟨e, he⟩
      rw [if_pos (Or.inl hin)]
      rfl
    | none =>
      -- no relationship has been read yet, so there are no ends
      have hout : name ∉ d.entities := by simpa using he
      rw [if_neg]
      intro h
      rcases h with h | h
      · exact hout h
      · exact absurd h (by simp [Diagram.ends])
  keys := by
    intro child
    show (∅ : Named (List ForeignKey))[child]?.getD [] = _
    rw [Std.ExtTreeMap.getElem?_empty]
    rfl
  joins := rfl

section

variable (he : ∀ name, s.entity? name = d.entity? name)

include he

theorem entity?_getD (name : String) :
    (s.entity? name).getD (.placeholder name) = d.entityOf name := by
  rw [he name]
  unfold Diagram.entity?
  split
  · rfl
  · rename_i h
    have hnone : d.entities[name]? = none := by
      have hout : name ∉ d.entities := fun hin => h (Or.inl hin)
      simpa using hout
    unfold Diagram.entityOf
    rw [hnone]

/-- What a reference asks for depends on the diagram's entities only. -/
theorem referenceTo_eq_keyTo (child parent : String) :
    s.referenceTo child parent = d.keyTo child parent := by
  have hkey : (s.entity? parent).bind Entity.primaryKey = (d.entityOf parent).primaryKey := by
    rw [← entity?_getD he parent]
    cases s.entity? parent <;> rfl
  unfold referenceTo referenceColumn Diagram.keyTo
  rw [entity?_getD he child, hkey]

theorem withBoth_entity? (name : String) :
    (s.withBoth r).entity? name = (d.add r).entity? name := by
  have hget := entity?_getD he name
  unfold withBoth
  rw [ensured_entity?, ensured_entity?, Diagram.entity?_add]
  by_cases hl : name = r.left
  · rw [if_pos hl, if_pos (Or.inl hl), hget]
    exact ite_self _
  · rw [if_neg hl, hget, he name]
    exact if_congr (or_iff_right hl).symm rfl rfl

end

/-- **A relationship that is accepted keeps the reading.** -/
theorem reflects_relate (h : s.Reflects d) (hs : s.relate mode r = .ok s') :
    s'.Reflects (d.add r) := by
  obtain ⟨_, hlink⟩ := relate_ok_iff.mp hs
  have hentities := withBoth_entity? (r := r) h.entities
  have hkeys : ∀ child, (s.withBoth r).keysOf child = d.keysOf child := by
    intro child
    rw [← h.keys child]
    unfold keysOf
    rw [withBoth_foreignKeys]
  have hjoins : (s.withBoth r).joinTables = d.joinTables := (withBoth_joinTables s r).trans h.joins
  unfold addLink at hlink
  rcases r.reference_or_pairs with ⟨child, parent, href⟩ | hpairs
  · obtain ⟨hl, hnot⟩ := Relationship.link_of_reference href
    rw [hl] at hlink
    obtain rfl := Except.ok.inj hlink
    obtain ⟨hsame, htables⟩ := addReference_rest (s.withBoth r) child parent
    refine ⟨fun name => ?_, fun other => ?_, ?_⟩
    · rw [← hentities name]
      unfold entity?
      rw [hsame]
    · by_cases hc : child = other
      · subst hc
        rw [addReference_keysOf_self, referenceTo_eq_keyTo hentities, hkeys,
          Diagram.keysOf_add_self href]
        rfl
      · rw [addReference_keysOf_other _ hc, hkeys, Diagram.keysOf_add_other]
        intro parent' href'
        rw [href] at href'
        exact hc (congrArg Prod.fst (Option.some.inj href'))
    · rw [htables, hjoins, Diagram.joinTables_add_reference hnot]
  · obtain ⟨hl, hnone⟩ := Relationship.link_of_pairs hpairs
    rw [hl] at hlink
    have hother : ∀ child parent, r.reference? ≠ some (child, parent) := by simp [hnone]
    rcases addPairing_cases hlink with ⟨hpair, rfl⟩ | ⟨hfree, rfl⟩
    · refine ⟨hentities, fun child => ?_, ?_⟩
      · rw [Diagram.keysOf_add_other (hother child), hkeys]
      · rw [hjoins] at hpair ⊢
        rw [Diagram.joinTables_add_pairs hpairs, if_pos hpair]
    · refine ⟨hentities, fun child => ?_, ?_⟩
      · rw [Diagram.keysOf_add_other (hother child)]
        exact hkeys child
      · -- a table for the pair would have the name that is free
        rw [hjoins] at hfree
        rw [Diagram.joinTables_add_pairs hpairs, if_neg, ← hjoins]
        intro hpair
        obtain ⟨t, ht, hleft, hright⟩ := hpair
        obtain ⟨r', _, rfl⟩ := Diagram.mem_joinTables ht
        exact hfree _ ht (congrArg₂ (fun left right => foldCase (joinName left right)) hleft hright)

/-- **Relationships that are accepted one after the other keep the reading.** -/
theorem reflects_relateAll {rs : List Relationship} (h : s.Reflects d)
    (hs : s.relateAll mode rs = .ok s') :
    s'.Reflects { d with relationships := d.relationships ++ rs } := by
  induction rs generalizing s d with
  | nil =>
    obtain rfl := Except.ok.inj hs
    rw [List.append_nil]
    exact h
  | cons r rest ih =>
    obtain ⟨s₁, h₁, h₂⟩ := bind_eq_ok.mp hs
    have hrest := ih (reflects_relate h h₁) h₂
    unfold Diagram.add at hrest
    rw [List.append_assoc] at hrest
    exact hrest

theorem resolve_ok_iff :
    resolve mode d = .ok s ↔
      (ofEntities d).relateAll mode d.relationships = .ok s ∧ s.clash? = none := by
  unfold resolve
  rw [bind_eq_ok]
  constructor
  · intro h
    obtain ⟨s₁, h₁, h₂⟩ := h
    split at h₂
    · exact absurd h₂ (by simp)
    · rename_i hnone
      obtain rfl := Except.ok.inj h₂
      exact ⟨h₁, hnone⟩
  · intro h
    exact ⟨s, h.1, by rw [h.2]⟩

/-- **A resolved schema is what its diagram reads as.** -/
theorem reflects_resolve (h : resolve mode d = .ok s) : s.Reflects d := by
  have hall := reflects_relateAll (reflects_ofEntities d) (resolve_ok_iff.mp h).1
  rw [List.nil_append] at hall
  exact hall

end Schema

end Crowfoot
