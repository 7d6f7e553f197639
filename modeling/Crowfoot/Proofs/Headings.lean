import Crowfoot.Proofs.Meeting

/-!
# The headings of a table

The columns of an entity's table are its attributes and the foreign keys that no attribute declares.
An attribute that is like the plain name of a key column is that column, however it is spelled. A
column beside the child's own key has the plain name with `parent_` before it, and an attribute is
that column only if it is spelled so.

No two headings are equal if the attributes are apart. Two are alike if and only if an attribute has
the name of a column beside the key in other letters.
-/

namespace Crowfoot

open Text

/-- No two of the names are alike. -/
def Apart (names : List String) : Prop := names.Pairwise fun a b => ¬ SameName a b

instance (names : List String) : Decidable (Apart names) :=
  inferInstanceAs (Decidable (names.Pairwise _))

theorem Apart.nodup {names : List String} (h : Apart names) : names.Nodup := by
  exact List.Pairwise.imp (fun hne he => hne (congrArg foldCase he)) h

theorem Apart.eq_of_mem {names : List String} (h : Apart names) {a b : String} (ha : a ∈ names)
    (hb : b ∈ names) (hsame : SameName a b) : a = b := by
  have hnodup : (names.map foldCase).Nodup := List.pairwise_map.mpr h
  exact List.inj_on_of_nodup_map hnodup ha hb hsame

namespace Entity

variable {e : Entity} {a : Attribute} {parent : String}

/-- Only the column beside the own key can be like an attribute and not be one. -/
theorem ownKey_of_sameName (hnone : e.attribute? (e.referenceColumn parent) = none)
    (ha : a ∈ e.attributes) (hsame : SameName a.name (e.referenceColumn parent)) :
    e.OwnKey parent := by
  rcases e.referenceColumn_cases parent with
    ⟨hnew, hcolumn⟩ | ⟨b, hb, _, _, hcolumn⟩ | ⟨hown, _⟩
  · rw [hcolumn] at hsame
    exact absurd hsame (hnew a ha)
  · -- the column is an attribute
    rw [hcolumn] at hnone
    exact absurd rfl (ne_of_attribute?_eq_none hnone hb)
  · exact hown

end Entity

namespace Schema

variable {s : Schema} {name : String} {e : Entity}

/-- The names of the attributes, then of the keys that are none of them. -/
theorem columnNames_eq (he : s.entity? name = some e) :
    s.columnNames name = e.attributes.map Attribute.name ++
      ((s.keysOf name).filter fun k => (e.attribute? k.column).isNone).map ForeignKey.column := by
  unfold columnNames columns
  simp only [he]
  rw [List.map_append, List.map_map, List.map_map]
  rfl

namespace Linked

/-- What holds of two attributes, of two keys, and of an attribute and a key holds of two columns. -/
theorem pairwise_columnNames (h : s.Linked) (he : s.entity? name = some e)
    {R : String → String → Prop} (hattrs : (e.attributes.map Attribute.name).Pairwise R)
    (hkeys : ∀ x y, ¬ SameName x y → R x y)
    (hcross : ∀ a ∈ e.attributes, ∀ k ∈ s.keysOf name, e.attribute? k.column = none →
      R a.name k.column) : (s.columnNames name).Pairwise R := by
  rw [columnNames_eq he]
  refine List.pairwise_append.mpr ⟨hattrs, ?_, fun x hx y hy => ?_⟩
  · rw [List.pairwise_map]
    exact ((h.apart name).filter _).imp fun hne => hkeys _ _ hne
  · obtain ⟨a, ha, rfl⟩ := List.mem_map.mp hx
    obtain ⟨k, hk, rfl⟩ := List.mem_map.mp hy
    obtain ⟨hmem, hnone⟩ := List.mem_filter.mp hk
    exact hcross a ha k hmem (Option.isNone_iff_eq_none.mp hnone)

/-- **No two columns of a table have one name.** -/
theorem nodup_columnNames (h : s.Linked) (he : s.entity? name = some e)
    (hattrs : (e.attributes.map Attribute.name).Nodup) : (s.columnNames name).Nodup := by
  refine h.pairwise_columnNames he hattrs (fun x y hne hxy => hne (congrArg foldCase hxy)) ?_
  intro a ha k _ hnone
  exact Entity.ne_of_attribute?_eq_none hnone ha

/-- **Columns are apart if and only if what is like a column beside the key is spelled like it.** -/
theorem apart_columnNames_iff (h : s.Linked) (he : s.entity? name = some e)
    (hattrs : Apart (e.attributes.map Attribute.name)) :
    Apart (s.columnNames name) ↔ ∀ k ∈ s.keysOf name, e.OwnKey k.parent →
      ∀ a ∈ e.attributes, SameName a.name ("parent_" ++ keyColumn k.parent) →
        a.name = "parent_" ++ keyColumn k.parent := by
  constructor
  · intro hcolumns k hk hown a ha hsame
    -- the column and the attribute are both in the table, so what is like one another is one
    rw [← Entity.referenceColumn_of_ownKey hown, ← h.column_eq he hk] at hsame ⊢
    obtain ⟨c, hc, hcarries⟩ := h.exists_column hk
    have hattr : a.name ∈ s.columnNames name := by
      rw [columnNames_eq he]
      exact List.mem_append_left _ (List.mem_map_of_mem ha)
    have hcolumn : k.column ∈ s.columnNames name :=
      List.mem_map.mpr ⟨c, hc, (columns_foreignKey hc hcarries).2⟩
    exact hcolumns.eq_of_mem hattr hcolumn hsame
  · intro hspelled
    refine h.pairwise_columnNames he hattrs (fun _ _ hne => hne) fun a ha k hk hnone hsame => ?_
    -- a derived column like an attribute can only be the one beside the child's own key
    have hne := Entity.ne_of_attribute?_eq_none hnone ha
    rw [h.column_eq he hk] at hsame hnone hne
    have hown := Entity.ownKey_of_sameName hnone ha hsame
    rw [Entity.referenceColumn_of_ownKey hown] at hsame hne
    exact hne (hspelled k hk hown a ha hsame)

end Linked

end Schema

namespace Plan

/--
**Two columns of a table are alike only if one misspells a column beside the key.**

Let the attributes of an entity be apart. No two columns of its table have one name. They are apart
up to case if and only if no attribute is named like a column that stands beside the entity's own
key and spelled differently.
-/
theorem columnNames_apart {mode : Undeclared} {text : String} {p : Plan}
    (h : ofText mode text = .ok p) {name : String} {e : Entity}
    (he : p.schema.entity? name = some e) (hattrs : Apart (e.attributes.map Attribute.name)) :
    (p.schema.columnNames name).Nodup ∧
    (Apart (p.schema.columnNames name) ↔ ∀ k ∈ p.schema.keysOf name, e.OwnKey k.parent →
      ∀ a ∈ e.attributes, SameName a.name ("parent_" ++ keyColumn k.parent) →
        a.name = "parent_" ++ keyColumn k.parent) := by
  have hlinked := (regular_ofText h).linked
  exact ⟨hlinked.nodup_columnNames he hattrs.nodup, hlinked.apart_columnNames_iff he hattrs⟩

/-- A table that refers to itself and declares the column beside its key as that is spelled. -/
def spelledBesideKey : String :=
  "entity Node \x7b\nnode_id : number <<generated>>\nparent_Node_id : number\n\x7d\n"
    ++ "Node ||--o\x7b Node\n"

theorem columnNames_apart_spelledBesideKey :
    ∃ p e, ofText .synthesize spelledBesideKey = .ok p ∧ p.schema.entity? "Node" = some e ∧
      Apart (e.attributes.map Attribute.name) ∧
      (∃ k ∈ p.schema.keysOf "Node", e.OwnKey k.parent) ∧
      Apart (p.schema.columnNames "Node") := by
  have heval : (ofText .synthesize spelledBesideKey).toOption.any (fun p =>
      (p.schema.entity? "Node").any fun e => decide (Apart (e.attributes.map Attribute.name) ∧
        (∃ k ∈ p.schema.keysOf "Node", e.OwnKey k.parent) ∧
        ∀ k ∈ p.schema.keysOf "Node", e.OwnKey k.parent →
          ∀ a ∈ e.attributes, SameName a.name ("parent_" ++ keyColumn k.parent) →
            a.name = "parent_" ++ keyColumn k.parent)) = true := by
    decide +kernel
  obtain ⟨p, hp, htest⟩ := exists_ok_of_any heval
  obtain ⟨e, he, htest⟩ := (Option.any_eq_true _ _).mp htest
  obtain ⟨hattrs, hbeside, hspelled⟩ := of_decide_eq_true htest
  obtain ⟨_, hiff⟩ := columnNames_apart hp he hattrs
  exact ⟨p, e, hp, he, hattrs, hbeside, hiff.mpr hspelled⟩

/-- The same table with the column in lower case: it has the column twice. -/
def misspelledBesideKey : String :=
  "entity Node \x7b\n  node_id : number <<generated>>\n  parent_node_id : number\n\x7d\n"
    ++ "Node ||--o\x7b Node\n"

theorem columnNames_not_apart_misspelledBesideKey :
    ∃ p e, ofText .synthesize misspelledBesideKey = .ok p ∧ p.schema.entity? "Node" = some e ∧
      Apart (e.attributes.map Attribute.name) ∧
      p.schema.columnNames "Node" = ["node_id", "parent_node_id", "parent_Node_id"] ∧
      ¬ Apart (p.schema.columnNames "Node") := by
  have heval : (ofText .synthesize misspelledBesideKey).toOption.any (fun p =>
      (p.schema.entity? "Node").any fun e => decide (Apart (e.attributes.map Attribute.name) ∧
        p.schema.columnNames "Node" = ["node_id", "parent_node_id", "parent_Node_id"])) = true := by
    decide +kernel
  obtain ⟨p, hp, htest⟩ := exists_ok_of_any heval
  obtain ⟨e, he, htest⟩ := (Option.any_eq_true _ _).mp htest
  obtain ⟨hattrs, hnames⟩ := of_decide_eq_true htest
  refine ⟨p, e, hp, he, hattrs, hnames, ?_⟩
  rw [hnames]
  decide

end Plan

end Crowfoot
