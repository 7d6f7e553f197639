import Crowfoot.Proofs.Results
import Crowfoot.Schema.Resolution
import Mathlib.Logic.Relation

/-!
# What resolution makes of a diagram

A relationship can do three things to a schema: add a placeholder, add a foreign key, add
a join table. `Grows` says so once, with what is known when it happens, and a resolved
schema has grown from the entities of its diagram by such steps. Every invariant of
resolved schemas is shown for the three steps and nowhere else.

`Linked` is the invariant that the foreign keys and join tables fit the entities: their
ends are there, a key column has the name that the child gives it, and no two columns of
a child are alike.
-/

namespace Crowfoot

open Relation Text

/-- A relationship is a reference one way or the other, or a pairing. -/
theorem Relationship.link_cases (r : Relationship) :
    r.link = .reference r.right r.left ∨ r.link = .reference r.left r.right
      ∨ r.link = .pairing r.left r.right := by
  unfold link
  split
  · exact Or.inl rfl
  · exact Or.inr (Or.inl rfl)
  · exact Or.inr (Or.inr rfl)

namespace Schema

/-- The key by which the child refers to the parent. -/
def referenceTo (s : Schema) (child parent : String) : ForeignKey :=
  ⟨s.referenceColumn child parent, parent, (s.entity? parent).bind Entity.primaryKey⟩

/-- The entity has a primary key. -/
def HasKey (s : Schema) (name : String) : Prop :=
  ((s.entity? name).bind Entity.primaryKey).isSome

instance (s : Schema) (name : String) : Decidable (s.HasKey name) :=
  inferInstanceAs (Decidable (_ = true))

/-- What a relationship can do to a schema. -/
inductive Grows : Schema → Schema → Prop
  /-- A name that only relationships mention gets an entity. -/
  | placeholder {s : Schema} {name : String} (h : name ∉ s.entities) :
      Grows s { s with entities := s.entities.insert name (.placeholder name) }
  /-- A child gets a key in a column that none of its keys has. -/
  | reference {s : Schema} {child parent : String} (hc : child ∈ s.entities)
      (hp : parent ∈ s.entities)
      (h : s.hasKeyColumn child (s.referenceColumn child parent) = false) :
      Grows s { s with
        foreignKeys := s.foreignKeys.insert child (s.keysOf child ++ [s.referenceTo child parent]) }
  /-- A pair gets a table under a name that no table has. -/
  | pairing {s : Schema} {left right : String} {line : Nat} (hl : left ∈ s.entities)
      (hr : right ∈ s.entities) (h : s.joinTable? (joinName left right) = none) :
      Grows s { s with joinTables := s.joinTables ++ [.ofPair left right line] }

/-! ## A resolved schema has grown from its diagram -/

theorem withEntity_grows {mode : Undeclared} {r : Relationship} {s s' : Schema} {name : String}
    (h : s.withEntity mode r name = .ok s') :
    ReflTransGen Grows s s' ∧ name ∈ s'.entities ∧ ∀ x ∈ s.entities, x ∈ s'.entities := by
  unfold withEntity at h
  split at h
  · rename_i hin
    obtain rfl := Except.ok.inj h
    exact ⟨.refl, hin, fun _ hx => hx⟩
  · rename_i hnew
    cases mode with
    | synthesize =>
      obtain rfl := Except.ok.inj h
      exact ⟨.single (.placeholder hnew), Std.ExtTreeMap.mem_insert_self,
        fun x hx => Std.ExtTreeMap.mem_insert.mpr (Or.inr hx)⟩
    | reject => exact absurd h (by simp)

theorem withEnds_grows {mode : Undeclared} {r : Relationship} {s s' : Schema}
    (h : s.withEnds mode r = .ok s') :
    ReflTransGen Grows s s' ∧ r.left ∈ s'.entities ∧ r.right ∈ s'.entities := by
  obtain ⟨s₁, h₁, h₂⟩ := bind_eq_ok.mp h
  obtain ⟨hg₁, hleft, _⟩ := withEntity_grows h₁
  obtain ⟨hg₂, hright, hkeep⟩ := withEntity_grows h₂
  exact ⟨hg₁.trans hg₂, hkeep _ hleft, hright⟩

theorem addReference_grows {s : Schema} {child parent : String} (hc : child ∈ s.entities)
    (hp : parent ∈ s.entities) : ReflTransGen Grows s (s.addReference child parent) := by
  unfold addReference
  dsimp only
  split
  · exact .refl
  · rename_i h
    exact .single (.reference hc hp (by simpa using h))

theorem addPairing_grows {s s' : Schema} {left right : String} {line : Nat}
    (hl : left ∈ s.entities) (hr : right ∈ s.entities)
    (h : s.addPairing left right line = .ok s') : ReflTransGen Grows s s' := by
  unfold addPairing at h
  split at h
  · split at h
    · obtain rfl := Except.ok.inj h
      exact .refl
    · exact absurd h (by simp)
  · rename_i hnone
    obtain rfl := Except.ok.inj h
    exact .single (.pairing hl hr hnone)

theorem addLink_grows {s s' : Schema} {r : Relationship} (hl : r.left ∈ s.entities)
    (hr : r.right ∈ s.entities) (h : s.addLink r = .ok s') : ReflTransGen Grows s s' := by
  unfold addLink at h
  rcases r.link_cases with hlink | hlink | hlink <;> rw [hlink] at h
  · obtain rfl := Except.ok.inj h
    exact addReference_grows hr hl
  · obtain rfl := Except.ok.inj h
    exact addReference_grows hl hr
  · exact addPairing_grows hl hr h

theorem relateAll_grows {mode : Undeclared} {rs : List Relationship} {s s' : Schema}
    (h : s.relateAll mode rs = .ok s') : ReflTransGen Grows s s' := by
  induction rs generalizing s with
  | nil =>
    obtain rfl := Except.ok.inj h
    exact .refl
  | cons r rest ih =>
    obtain ⟨s₁, h₁, h₂⟩ := bind_eq_ok.mp h
    obtain ⟨s₀, h₀, hlink⟩ := bind_eq_ok.mp h₁
    obtain ⟨hends, hleft, hright⟩ := withEnds_grows h₀
    exact (hends.trans (addLink_grows hleft hright hlink)).trans (ih h₂)

/-- **A resolved schema has grown from the entities of its diagram.** -/
theorem resolve_grows {mode : Undeclared} {d : Diagram} {s : Schema}
    (h : resolve mode d = .ok s) : ReflTransGen Grows (ofEntities d) s := by
  obtain ⟨s₁, h₁, h₂⟩ := bind_eq_ok.mp h
  split at h₂
  · exact absurd h₂ (by simp)
  · obtain rfl := Except.ok.inj h₂
    exact relateAll_grows h₁

/-- **What growth keeps holds of a resolved schema if it holds of the diagram's entities.** -/
theorem resolve_induction {mode : Undeclared} {d : Diagram} {s : Schema}
    (h : resolve mode d = .ok s) {P : Schema → Prop} (hstart : P (ofEntities d))
    (hkeep : ∀ s s', P s → Grows s s' → P s') : P s := by
  have hgrows := resolve_grows h
  clear h
  induction hgrows with
  | refl => exact hstart
  | tail _ hg ih => exact hkeep _ _ ih hg

/-! ## Growing leaves the entities alone -/

theorem mem_entities_iff (s : Schema) (name : String) :
    name ∈ s.entities ↔ ∃ e, s.entity? name = some e := Named.mem_iff_getElem? ..

theorem keysOf_insert (s : Schema) (child other : String) (keys : List ForeignKey) :
    ({ s with foreignKeys := s.foreignKeys.insert child keys }).keysOf other =
      if child = other then keys else s.keysOf other := by
  unfold keysOf
  rw [Named.getElem?_insert]
  split <;> rfl

theorem Grows.entity?_eq {s s' : Schema} (h : Grows s s') {name : String}
    (hname : name ∈ s.entities) : s'.entity? name = s.entity? name := by
  cases h with
  | @placeholder new hnew =>
    show (s.entities.insert new _)[name]? = s.entities[name]?
    rw [Named.getElem?_insert, if_neg]
    intro he
    exact hnew (he ▸ hname)
  | reference _ _ _ => rfl
  | pairing _ _ _ => rfl

theorem Grows.mem_entities {s s' : Schema} (h : Grows s s') {name : String}
    (hname : name ∈ s.entities) : name ∈ s'.entities := by
  obtain ⟨e, he⟩ := (s.mem_entities_iff name).mp hname
  exact (s'.mem_entities_iff name).mpr ⟨e, (h.entity?_eq hname).trans he⟩

/-- An entity of a grown schema was there before or is a placeholder. -/
theorem Grows.entity?_cases {s s' : Schema} (h : Grows s s') {name : String} {e : Entity}
    (he : s'.entity? name = some e) : s.entity? name = some e ∨ e = .placeholder name := by
  cases h with
  | @placeholder new hnew =>
    replace he : (s.entities.insert new (.placeholder new))[name]? = some e := he
    rw [Named.getElem?_insert] at he
    split at he
    · rename_i hn
      subst hn
      exact Or.inr (Option.some.inj he).symm
    · exact Or.inl he
  | reference _ _ _ => exact Or.inl he
  | pairing _ _ _ => exact Or.inl he

/-- Only its two entities decide what a reference asks for. -/
theorem referenceTo_congr {s s' : Schema} {child parent : String}
    (hc : s'.entity? child = s.entity? child) (hp : s'.entity? parent = s.entity? parent) :
    s'.referenceTo child parent = s.referenceTo child parent := by
  unfold referenceTo referenceColumn
  rw [hc, hp]

/-! ## The invariant -/

/-- The foreign keys and join tables of a schema fit its entities. -/
structure Linked (s : Schema) : Prop where
  /-- Both ends of a reference are entities. -/
  ends : ∀ child, ∀ k ∈ s.keysOf child, child ∈ s.entities ∧ k.parent ∈ s.entities
  /-- A key is what a reference to its parent asks for. -/
  key : ∀ child, ∀ k ∈ s.keysOf child, k = s.referenceTo child k.parent
  /-- No two key columns of a child are alike. -/
  apart : ∀ child, (s.keysOf child).Pairwise fun a b => ¬ SameName a.column b.column
  /-- Both sides of a join table are entities. -/
  sides : ∀ t ∈ s.joinTables, t.left.entity ∈ s.entities ∧ t.right.entity ∈ s.entities

/-- A foreign key knows its parent's key. -/
theorem Linked.parentKey_eq {s : Schema} (h : s.Linked) {child : String} {k : ForeignKey}
    (hk : k ∈ s.keysOf child) {e : Entity} (he : s.entity? k.parent = some e) :
    k.parentKey = e.primaryKey := by
  have hkey := congrArg ForeignKey.parentKey (h.key child k hk)
  simpa only [referenceTo, he, Option.bind_some] using hkey

/-- A foreign key knows its parent's key if the parent has one. -/
theorem Linked.parentKey_isSome_iff {s : Schema} (h : s.Linked) {child : String} {k : ForeignKey}
    (hk : k ∈ s.keysOf child) : k.parentKey.isSome ↔ s.HasKey k.parent := by
  rw [h.key child k hk]
  rfl

theorem linked_ofEntities (d : Diagram) : Linked (ofEntities d) := by
  have hnone : ∀ child, (ofEntities d).keysOf child = [] := by
    intro child
    simp [keysOf, ofEntities]
  refine ⟨fun child k hk => ?_, fun child k hk => ?_, fun child => ?_, fun t ht => ?_⟩
  · rw [hnone] at hk
    exact absurd hk (by simp)
  · rw [hnone] at hk
    exact absurd hk (by simp)
  · rw [hnone]
    exact .nil
  · exact absurd ht (by simp [ofEntities])

/-- **Every growth keeps foreign keys and join tables fitting.** -/
theorem linked_grows {s s' : Schema} (h : Linked s) (hg : Grows s s') : Linked s' := by
  have hkeep : ∀ child parent, child ∈ s.entities → parent ∈ s.entities →
      s'.referenceTo child parent = s.referenceTo child parent :=
    fun child parent hc hp => referenceTo_congr (hg.entity?_eq hc) (hg.entity?_eq hp)
  have hsides : ∀ t ∈ s.joinTables, t.left.entity ∈ s'.entities ∧ t.right.entity ∈ s'.entities :=
    fun t ht => ⟨hg.mem_entities (h.sides t ht).1, hg.mem_entities (h.sides t ht).2⟩
  have hends : ∀ child, ∀ k ∈ s.keysOf child, child ∈ s'.entities ∧ k.parent ∈ s'.entities :=
    fun child k hk => ⟨hg.mem_entities (h.ends child k hk).1, hg.mem_entities (h.ends child k hk).2⟩
  have hkey : ∀ child, ∀ k ∈ s.keysOf child, k = s'.referenceTo child k.parent := by
    intro child k hk
    obtain ⟨hc, hp⟩ := h.ends child k hk
    rw [hkeep child k.parent hc hp]
    exact h.key child k hk
  cases hg with
  | placeholder _ => exact ⟨hends, hkey, h.apart, hsides⟩
  | pairing hl hr _ =>
    refine ⟨hends, hkey, h.apart, fun t ht => ?_⟩
    rcases List.mem_append.mp ht with ht | ht
    · exact hsides t ht
    · rw [List.mem_singleton.mp ht]
      exact ⟨hl, hr⟩
  | @reference child parent hc hp hnew =>
    -- one key more for the child, in a column unlike all others
    refine ⟨fun other k hk => ?_, fun other k hk => ?_, fun other => ?_, hsides⟩
    · rw [keysOf_insert] at hk
      split at hk
      · rename_i he
        subst he
        rcases List.mem_append.mp hk with hk | hk
        · exact hends child k hk
        · rw [List.mem_singleton.mp hk]
          exact ⟨hc, hp⟩
      · exact hends other k hk
    · rw [keysOf_insert] at hk
      split at hk
      · rename_i he
        subst he
        rcases List.mem_append.mp hk with hk | hk
        · exact hkey child k hk
        · rw [List.mem_singleton.mp hk]
          exact (hkeep child parent hc hp).symm
      · exact hkey other k hk
    · rw [keysOf_insert]
      split
      · rename_i he
        subst he
        refine List.pairwise_append.mpr ⟨h.apart child, List.pairwise_singleton .., ?_⟩
        intro a ha b hb hsame
        rw [List.mem_singleton.mp hb] at hsame
        unfold hasKeyColumn at hnew
        rw [List.any_eq_false] at hnew
        exact hnew a ha (decide_eq_true hsame)
      · exact h.apart other

/-- **In a resolved schema the foreign keys and join tables fit the entities.** -/
theorem linked_resolve {mode : Undeclared} {d : Diagram} {s : Schema}
    (h : resolve mode d = .ok s) : Linked s :=
  resolve_induction h (linked_ofEntities d) fun _ _ => linked_grows

/-- What holds of a diagram's entities and of placeholders holds of a resolved schema's entities. -/
theorem entities_resolve {mode : Undeclared} {d : Diagram} {s : Schema}
    (h : resolve mode d = .ok s) {P : String → Entity → Prop}
    (hd : ∀ name e, d.entities[name]? = some e → P name e)
    (hp : ∀ name, P name (.placeholder name)) {name : String} {e : Entity}
    (he : s.entity? name = some e) : P name e := by
  refine resolve_induction h (P := fun s => ∀ name e, s.entity? name = some e → P name e) hd ?_
    name e he
  intro s s' hall hg name e he
  rcases hg.entity?_cases he with he | rfl
  · exact hall name e he
  · exact hp name

end Schema

end Crowfoot
