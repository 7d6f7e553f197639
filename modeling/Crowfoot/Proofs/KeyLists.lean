import Crowfoot.Proofs.Headings

/-!
# The foreign keys of a child

A child has a list of foreign keys from its first reference on, so no list is empty. The columns of
the keys are unlike each other, and a parent has one column of the child, so it has one key at most.

A key is carried by the attributes that are called like its column, or by a column of its own if
there are none. Counting the columns that carry it says both: there is one at least, and there are
more only if the child declares an attribute of that name more than once.
-/

namespace Crowfoot

open Text

/-- There are attributes of a name unless none is found. -/
theorem Entity.countP_eq_zero_iff {e : Entity} {name : String} :
    e.attributes.countP (·.name = name) = 0 ↔ e.attribute? name = none := by
  rw [List.countP_eq_zero]
  exact List.find?_eq_none.symm

namespace Schema

variable {s s' : Schema} {child : String} {e : Entity} {k : ForeignKey}

/-! ## No list is empty -/

/-- Where there is a list of foreign keys there is a foreign key. -/
def NoEmptyList (s : Schema) : Prop :=
  ∀ (child : String) (keys : List ForeignKey), s.foreignKeys[child]? = some keys → keys ≠ []

theorem noEmptyList_ofEntities (d : Diagram) : (ofEntities d).NoEmptyList := by
  intro child keys hkeys
  exact absurd hkeys (by simp [ofEntities])

/-- **A list begins with a key, and only grows.** -/
theorem noEmptyList_grows (h : s.NoEmptyList) (hg : Grows s s') : s'.NoEmptyList := by
  cases hg with
  | placeholder _ => exact h
  | pairing _ _ _ => exact h
  | reference _ _ _ =>
    intro other keys hkeys
    rw [Named.getElem?_insert] at hkeys
    split at hkeys
    · obtain rfl := Option.some.inj hkeys
      exact List.concat_ne_nil _ _
    · exact h other keys hkeys

theorem noEmptyList_resolve {mode : Undeclared} {d : Diagram} (h : resolve mode d = .ok s) :
    s.NoEmptyList :=
  resolve_induction h (noEmptyList_ofEntities d) fun _ _ => noEmptyList_grows

theorem keysOf_of_some {keys : List ForeignKey} (h : s.foreignKeys[child]? = some keys) :
    s.keysOf child = keys := by
  unfold keysOf
  rw [h, Option.getD_some]

namespace Linked

/-! ## Keys that differ -/

theorem nodup_keysOf (h : s.Linked) (child : String) : (s.keysOf child).Nodup := by
  refine (h.apart child).imp fun hne he => hne ?_
  rw [he]
  rfl

/-- **A child has one key to a parent.** -/
theorem nodup_parents (h : s.Linked) (child : String) :
    ((s.keysOf child).map ForeignKey.parent).Nodup := by
  refine List.pairwise_map.mpr ((h.apart child).imp_of_mem fun ha hb hne hparent => hne ?_)
  -- keys to one parent have the column that the child names for it
  rw [h.key child _ ha, h.key child _ hb, hparent]
  rfl

/-! ## The columns that carry a key -/

/-- An attribute carries the key whose column it is called like. -/
theorem find?_column_eq_iff (h : s.Linked) (hk : k ∈ s.keysOf child) {name : String} :
    (s.keysOf child).find? (·.column = name) = some k ↔ name = k.column := by
  constructor
  · intro hfind
    have hname := List.find?_some hfind
    exact (of_decide_eq_true hname).symm
  · intro hname
    rw [hname]
    exact h.find?_column hk

/-- The attributes that carry a key are those that are called like its column. -/
theorem countP_declared (h : s.Linked) (hk : k ∈ s.keysOf child) (as : List Attribute) :
    (as.map fun a => (⟨a.name, some a, (s.keysOf child).find? (·.column = a.name)⟩ :
      Column)).countP (·.foreignKey = some k) = as.countP (·.name = k.column) := by
  rw [List.countP_map]
  refine List.countP_congr fun a _ => ?_
  simp only [Function.comp_apply, decide_eq_true_eq]
  exact h.find?_column_eq_iff hk

/-- A key that no attribute carries has one column of its own. -/
theorem countP_derived (h : s.Linked) (hk : k ∈ s.keysOf child) :
    (((s.keysOf child).filter fun k' => (e.attribute? k'.column).isNone).map fun k' =>
      (⟨k'.column, none, some k'⟩ : Column)).countP (·.foreignKey = some k) =
        if e.attribute? k.column = none then 1 else 0 := by
  -- the columns are counted by their keys
  have hcount : (((s.keysOf child).filter fun k' => (e.attribute? k'.column).isNone).map fun k' =>
      (⟨k'.column, none, some k'⟩ : Column)).countP (·.foreignKey = some k) =
        ((s.keysOf child).filter fun k' => (e.attribute? k'.column).isNone).count k := by
    rw [List.countP_map]
    refine List.countP_congr fun k' _ => ?_
    simp
  rw [hcount]
  by_cases hnone : e.attribute? k.column = none
  · -- a list of keys has no key twice
    rw [if_pos hnone, List.count_filter (by simp [hnone])]
    exact List.count_eq_one_of_mem (h.nodup_keysOf child) hk
  · rw [if_neg hnone, List.count_eq_zero]
    intro hmem
    exact hnone (Option.isNone_iff_eq_none.mp (List.mem_filter.mp hmem).2)

/-- **A key is carried by as many columns as attributes have its name, or by one of its own.** -/
theorem countP_carriers (h : s.Linked) (he : s.entity? child = some e) (hk : k ∈ s.keysOf child) :
    (s.columns child).countP (·.foreignKey = some k) =
      max 1 (e.attributes.countP (·.name = k.column)) := by
  simp only [columns, he]
  rw [List.countP_append, h.countP_declared hk, h.countP_derived hk]
  by_cases hnone : e.attribute? k.column = none
  · rw [if_pos hnone, Entity.countP_eq_zero_iff.mpr hnone]
    rfl
  · have hdeclared : e.attributes.countP (·.name = k.column) ≠ 0 :=
      fun hzero => hnone (Entity.countP_eq_zero_iff.mp hzero)
    rw [if_neg hnone]
    omega

/-- An attribute that is declared twice carries the key twice. -/
example : (resolve .synthesize (.ofText
    "entity B \x7b\nA_id : number\nA_id : text\n\x7d\nA ||--o\x7b B\n")).toOption.any (fun s =>
      (s.columns "B").countP (·.foreignKey = some ⟨"A_id", "A", none⟩) = 2) = true := by
  decide +kernel

/-- **With attributes of different names a key is carried once.** -/
theorem countP_carriers_of_nodup (h : s.Linked) (he : s.entity? child = some e)
    (hattrs : (e.attributes.map Attribute.name).Nodup) (hk : k ∈ s.keysOf child) :
    (s.columns child).countP (·.foreignKey = some k) = 1 := by
  have hcount := List.nodup_iff_count_le_one.mp hattrs k.column
  rw [List.count, List.countP_map] at hcount
  have hname : e.attributes.countP (·.name = k.column) ≤ 1 := hcount
  rw [h.countP_carriers he hk]
  omega

end Linked

/-! ## Schemas of texts -/

/-- What holds of the foreign keys that are listed for a child. -/
structure WellKeyed (s : Schema) (child : String) (e : Entity) (keys : List ForeignKey) :
    Prop where
  /-- The child is an entity. -/
  entity : s.entity? child = some e
  nonempty : keys ≠ []
  columns_apart : Apart (keys.map ForeignKey.column)
  nodup_parents : (keys.map ForeignKey.parent).Nodup
  /-- Each parent is an entity, and the key knows its primary key. -/
  parent : ∀ k ∈ keys, ∃ e', s.entity? k.parent = some e' ∧ k.parentKey = e'.primaryKey
  primaryKey_ne : ∀ k ∈ keys, e.primaryKey ≠ some k.column
  /-- A column of the child's table carries the key. -/
  carried : ∀ k ∈ keys, ∃ c ∈ s.columns child, c.foreignKey = some k
  carried_once : (e.attributes.map Attribute.name).Nodup →
    ∀ k ∈ keys, (s.columns child).countP (·.foreignKey = some k) = 1

/--
**In the schema of a text the foreign keys of every child are well formed.**

If a child has a list of foreign keys, the list is not empty, its columns are unlike each other and
its parents differ. Child and parents are entities, and no key has the child's own primary key as
its column. Every key is carried by a column of the child's table, and by exactly one if the child's
attributes have different names. Every column of a table that is no attribute carries a key.
-/
theorem wellKeyed_of_text {mode : Undeclared} {text : String}
    (h : resolve mode (.ofText text) = .ok s) :
    (∀ (child : String) (keys : List ForeignKey), s.foreignKeys[child]? = some keys →
      ∃ e, s.WellKeyed child e keys) ∧
    ∀ name, ∀ c ∈ s.columns name, c.attr = none → ∃ k ∈ s.keysOf name, c.foreignKey = some k := by
  have hlinked := linked_resolve h
  constructor
  · intro child keys hlist
    have hnonempty := noEmptyList_resolve h child keys hlist
    obtain rfl := keysOf_of_some hlist
    -- some key is there, so the child is one of its ends and an entity
    obtain ⟨k₀, hk₀⟩ := List.exists_mem_of_ne_nil _ hnonempty
    obtain ⟨e, he⟩ := (s.mem_entities_iff child).mp (hlinked.ends child k₀ hk₀).1
    refine ⟨e, he, hnonempty, ?_, hlinked.nodup_parents child, fun k hk => ?_, fun k hk => ?_,
      fun k hk => hlinked.exists_column hk,
      fun hattrs k hk => hlinked.countP_carriers_of_nodup he hattrs hk⟩
    · exact List.pairwise_map.mpr (hlinked.apart child)
    · obtain ⟨e', he'⟩ := (s.mem_entities_iff k.parent).mp (hlinked.ends child k hk).2
      exact ⟨e', he', hlinked.parentKey_eq hk he'⟩
    · exact hlinked.primaryKey_ne_column he (proper_resolve h he) hk
  · intro name c hc hderived
    cases hcarries : c.foreignKey with
    | some k => exact ⟨k, (columns_foreignKey hc hcarries).1, rfl⟩
    | none =>
      obtain ⟨a, ha⟩ := exists_attr hc hcarries
      exact absurd (ha.symm.trans hderived) nofun

/-- A child that refers to itself, to two parents and to a third by the column of one of these. -/
def manyParents : String :=
  "entity Node \x7b\n  node_id : number <<generated>>\n  group_ID : number\n\x7d\n"
    ++ "Node ||--o\x7b Node\nGroup ||--o\x7b Node\ngroup ||--o\x7b Node\nOwner ||--o\x7b Node\n"
    ++ "Group ||--o\x7b Node\n"

/-- The three keys of the child are a column beside its own key, an attribute, and a new column. -/
theorem wellKeyed_of_text_manyParents :
    ∃ s e keys, resolve .synthesize (.ofText manyParents) = .ok s ∧
      s.foreignKeys["Node"]? = some keys ∧
      keys = [⟨"parent_Node_id", "Node", some "node_id"⟩, ⟨"group_ID", "Group", none⟩,
        ⟨"Owner_id", "Owner", none⟩] ∧
      s.WellKeyed "Node" e keys ∧ (e.attributes.map Attribute.name).Nodup ∧
      (∀ k ∈ keys, (s.columns "Node").countP (·.foreignKey = some k) = 1) ∧
      ∃ c ∈ s.columns "Node", c.attr = none ∧ c.name = "Owner_id" ∧
        ∃ k ∈ s.keysOf "Node", c.foreignKey = some k := by
  have heval : (resolve .synthesize (.ofText manyParents)).toOption.any (fun s => decide (
      s.foreignKeys["Node"]? = some [⟨"parent_Node_id", "Node", some "node_id"⟩,
        ⟨"group_ID", "Group", none⟩, ⟨"Owner_id", "Owner", none⟩] ∧
      (∃ c ∈ s.columns "Node", c.attr = none ∧ c.name = "Owner_id")) &&
      (s.entity? "Node").any fun e => decide (e.attributes.map Attribute.name).Nodup) = true := by
    decide +kernel
  obtain ⟨s, hs, htest⟩ := exists_ok_of_any heval
  obtain ⟨hshape, hnames⟩ := Bool.and_eq_true_iff.mp htest
  obtain ⟨hlist, c, hc, hderived, hname⟩ := of_decide_eq_true hshape
  obtain ⟨hkeys, hcolumns⟩ := wellKeyed_of_text hs
  obtain ⟨e, hwell⟩ := hkeys "Node" _ hlist
  rw [hwell.entity, Option.any_some] at hnames
  have hattrs := of_decide_eq_true hnames
  exact ⟨s, e, _, hs, hlist, rfl, hwell, hattrs, hwell.carried_once hattrs, c, hc, hderived, hname,
    hcolumns "Node" c hc hderived⟩

end Schema

end Crowfoot
