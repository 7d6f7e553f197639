import Crowfoot.Plan
import Crowfoot.Proofs.Linked

/-!
# The columns that carry foreign keys

An entity that was read from a text has its own name, and its primary key is one of its
attributes. That is enough for a key column never to be the child's own primary key, and
every foreign key to have a column that carries it.
-/

namespace Crowfoot

open Text

/-! ## Entities as texts declare them -/

/-- The entity has that name, and its primary key is one of its attributes. -/
structure Entity.Proper (name : String) (e : Entity) : Prop where
  named : e.name = name
  key_declared : ∀ key, e.primaryKey = some key → ∃ a ∈ e.attributes, a.name = key

theorem Entity.proper_placeholder (name : String) : (Entity.placeholder name).Proper name :=
  ⟨rfl, fun _ h => absurd h (by simp [Entity.placeholder])⟩

theorem Entity.proper_keyed (e : Entity) : e.keyed.Proper e.name := by
  refine ⟨rfl, fun key h => ?_⟩
  obtain ⟨a, ha, rfl⟩ := Option.map_eq_some_iff.mp h
  exact ⟨a, List.mem_reverse.mp (List.mem_of_find?_eq_some ha), rfl⟩

theorem Entity.ne_of_attribute?_eq_none {e : Entity} {a : Attribute} {name : String}
    (h : e.attribute? name = none) (ha : a ∈ e.attributes) : a.name ≠ name := by
  have hall := List.find?_eq_none.mp h a ha
  simpa using hall

namespace Reading

/-- Every entity that has been read is proper. -/
def Proper (r : Reading) : Prop :=
  ∀ (name : String) (e : Entity), r.entities[name]? = some e → e.Proper name

theorem proper_closeBlock {r : Reading} (h : r.Proper) : r.closeBlock.Proper := by
  unfold closeBlock
  split
  · rename_i b _
    intro name e he
    simp only at he
    rw [Named.getElem?_insert] at he
    split at he
    · rename_i hname
      subst hname
      exact Option.some.inj he ▸ b.proper_keyed
    · exact h name e he
  · exact h

theorem proper_step {r : Reading} (h : r.Proper) (number : Nat) (line : Line) :
    (r.step number line).Proper := by
  cases line with
  | entityOpen name => exact proper_closeBlock h
  | entityClose => exact proper_closeBlock h
  | attr a => exact h
  | relationship left connector right label => exact h
  | blank => exact h
  | separator => exact h
  | unrecognized => exact h

theorem proper_steps {r : Reading} (h : r.Proper) (number : Nat) (lines : List Line) :
    (r.steps number lines).Proper := by
  induction lines generalizing r number with
  | nil => exact h
  | cons line rest ih => exact ih (proper_step h number line) (number + 1)

end Reading

/-- Every entity that a text declares is proper. -/
theorem Diagram.proper_ofText (text : String) {name : String} {e : Entity}
    (h : (Diagram.ofText text).entities[name]? = some e) : e.Proper name := by
  have hstart : Reading.start.Proper := fun name e he => absurd he (by simp [Reading.start])
  exact Reading.proper_closeBlock (Reading.proper_steps hstart 1 _) name e h

/-! ## Key columns -/

theorem length_eq_of_sameName {a b : String} (h : SameName a b) : a.length = b.length := by
  have hlen := congrArg List.length h
  simpa only [foldCase, List.length_map, String.length_toList] using hlen

namespace Entity

variable {e : Entity} {parent : String}

/-- The column that a reference to the parent would have is the child's own key. -/
def OwnKey (e : Entity) (parent : String) : Prop :=
  ∃ a, e.attributes.find? (SameName ·.name (keyColumn parent)) = some a ∧ e.isKey a.name = true

instance (e : Entity) (parent : String) : Decidable (e.OwnKey parent) :=
  decidable_of_iff ((e.attributes.find? (SameName ·.name (keyColumn parent))).any (e.isKey ·.name))
    (Option.any_eq_true _ _)

theorem referenceColumn_of_ownKey (h : e.OwnKey parent) :
    e.referenceColumn parent = "parent_" ++ keyColumn parent := by
  obtain ⟨a, hfind, hkey⟩ := h
  simp only [referenceColumn, hfind, hkey, if_true]

/-- **The column of a parent is new, is an attribute, or stands beside the child's own key.** -/
theorem referenceColumn_cases (e : Entity) (parent : String) :
    ((∀ a ∈ e.attributes, ¬ SameName a.name (keyColumn parent)) ∧
      e.referenceColumn parent = keyColumn parent) ∨
    (∃ a ∈ e.attributes, SameName a.name (keyColumn parent) ∧ e.isKey a.name = false ∧
      e.referenceColumn parent = a.name) ∨
    (e.OwnKey parent ∧ e.referenceColumn parent = "parent_" ++ keyColumn parent) := by
  cases hfind : e.attributes.find? (SameName ·.name (keyColumn parent)) with
  | none =>
    have hnone := List.find?_eq_none.mp hfind
    refine Or.inl ⟨fun a ha hsame => hnone a ha (decide_eq_true hsame), ?_⟩
    simp only [referenceColumn, hfind]
  | some a =>
    -- an attribute is taken for the column unless it is the child's own key
    have hsame : SameName a.name (keyColumn parent) := by simpa using List.find?_some hfind
    cases hkey : e.isKey a.name with
    | false =>
      refine Or.inr (Or.inl ⟨a, List.mem_of_find?_eq_some hfind, hsame, hkey, ?_⟩)
      simp only [referenceColumn, hfind, hkey, Bool.false_eq_true, if_false]
    | true =>
      have hown : e.OwnKey parent := ⟨a, hfind, hkey⟩
      exact Or.inr (Or.inr ⟨hown, referenceColumn_of_ownKey hown⟩)

/-- The own key that a column stands beside is like the plain name. -/
theorem OwnKey.exists_key (h : e.OwnKey parent) :
    ∃ key, e.primaryKey = some key ∧ SameName key (keyColumn parent) := by
  obtain ⟨a, hfind, hkey⟩ := h
  exact ⟨a.name, of_decide_eq_true hkey, by simpa using List.find?_some hfind⟩

/-- **A child never refers to a parent by its own primary key.** -/
theorem Proper.referenceColumn_ne_key {name : String} (h : e.Proper name) (parent : String) :
    e.primaryKey ≠ some (e.referenceColumn parent) := by
  intro hkey
  rcases e.referenceColumn_cases parent with
    ⟨hnew, hcolumn⟩ | ⟨a, _, _, hplain, hcolumn⟩ | ⟨hown, hcolumn⟩ <;> rw [hcolumn] at hkey
  · -- the key is an attribute, and no attribute is like the column
    obtain ⟨a, ha, hname⟩ := h.key_declared _ hkey
    exact hnew a ha (congrArg foldCase hname)
  · exact absurd (decide_eq_true hkey) (ne_true_of_eq_false hplain)
  · -- the column beside the key is longer than the key
    obtain ⟨key, hkey', hsame⟩ := hown.exists_key
    have hlen := congrArg String.length (Option.some.inj (hkey'.symm.trans hkey))
    have := length_eq_of_sameName hsame
    rw [String.length_append] at hlen
    have : "parent_".length = 7 := rfl
    omega

end Entity

namespace Schema

variable {s : Schema} {child : String} {k : ForeignKey} {c : Column}

theorem mem_columns_iff {e : Entity} (he : s.entity? child = some e) :
    c ∈ s.columns child ↔
      (∃ a ∈ e.attributes, c = ⟨a.name, some a, (s.keysOf child).find? (·.column = a.name)⟩) ∨
      ∃ k ∈ s.keysOf child, e.attribute? k.column = none ∧ c = ⟨k.column, none, some k⟩ := by
  simp only [columns, he, List.mem_append, List.mem_map, List.mem_filter, Option.isNone_iff_eq_none]
  constructor
  · intro h
    rcases h with ⟨a, ha, rfl⟩ | ⟨k, ⟨hk, hnone⟩, rfl⟩
    · exact Or.inl ⟨a, ha, rfl⟩
    · exact Or.inr ⟨k, hk, hnone, rfl⟩
  · intro h
    rcases h with ⟨a, ha, rfl⟩ | ⟨k, hk, hnone, rfl⟩
    · exact Or.inl ⟨a, ha, rfl⟩
    · exact Or.inr ⟨k, ⟨hk, hnone⟩, rfl⟩

theorem columns_of_none (he : s.entity? child = none) : s.columns child = [] := by
  simp only [columns, he]

/-- A column carries a foreign key of the entity, and has its name. -/
theorem columns_foreignKey (hc : c ∈ s.columns child) (hk : c.foreignKey = some k) :
    k ∈ s.keysOf child ∧ c.name = k.column := by
  cases he : s.entity? child with
  | none =>
    rw [columns_of_none he] at hc
    exact absurd hc (by simp)
  | some e =>
    rcases (mem_columns_iff he).mp hc with ⟨a, _, rfl⟩ | ⟨k', hk', _, rfl⟩
    · have hname := List.find?_some hk
      exact ⟨List.mem_of_find?_eq_some hk, (of_decide_eq_true hname).symm⟩
    · obtain rfl := Option.some.inj hk
      exact ⟨hk', rfl⟩

/-- A column that carries no foreign key is an attribute. -/
theorem exists_attr (hc : c ∈ s.columns child) (hk : c.foreignKey = none) :
    ∃ a, c.attr = some a := by
  cases he : s.entity? child with
  | none =>
    rw [columns_of_none he] at hc
    exact absurd hc (by simp)
  | some e =>
    rcases (mem_columns_iff he).mp hc with ⟨a, _, rfl⟩ | ⟨k, _, _, rfl⟩
    · exact ⟨a, rfl⟩
    · exact absurd hk nofun

/-- Columns that differ are found by their names. -/
theorem Linked.find?_column (h : s.Linked) (hk : k ∈ s.keysOf child) :
    (s.keysOf child).find? (·.column = k.column) = some k := by
  have hapart := h.apart child
  generalize s.keysOf child = keys at hk hapart
  induction keys with
  | nil => exact absurd hk (by simp)
  | cons k' rest ih =>
    obtain ⟨hhead, hrest⟩ := List.pairwise_cons.mp hapart
    rcases List.mem_cons.mp hk with rfl | hk
    · exact List.find?_cons_of_pos (decide_eq_true rfl)
    · have hne : k'.column ≠ k.column := fun he => hhead k hk (congrArg foldCase he)
      rw [List.find?_cons_of_neg (by simpa using hne)]
      exact ih hk hrest

/-- **Every foreign key has a column that carries it.** -/
theorem Linked.exists_column (h : s.Linked) (hk : k ∈ s.keysOf child) :
    ∃ c ∈ s.columns child, c.foreignKey = some k := by
  obtain ⟨e, he⟩ := (s.mem_entities_iff child).mp (h.ends child k hk).1
  cases ha : e.attribute? k.column with
  | none => exact ⟨_, (mem_columns_iff he).mpr (Or.inr ⟨k, hk, ha, rfl⟩), rfl⟩
  | some a =>
    have hname : a.name = k.column := by simpa using List.find?_some ha
    refine ⟨_, (mem_columns_iff he).mpr (Or.inl ⟨a, List.mem_of_find?_eq_some ha, rfl⟩), ?_⟩
    rw [hname]
    exact h.find?_column hk

/-- A key has the column that the child names for it. -/
theorem Linked.column_eq (h : s.Linked) {e : Entity} (he : s.entity? child = some e)
    (hk : k ∈ s.keysOf child) : k.column = e.referenceColumn k.parent := by
  have hkey := congrArg ForeignKey.column (h.key child k hk)
  simpa only [referenceTo, referenceColumn, he, Option.getD_some] using hkey

/-- **No foreign key has the child's own primary key as its column.** -/
theorem Linked.primaryKey_ne_column (h : s.Linked) {e : Entity} (he : s.entity? child = some e)
    (hproper : e.Proper child) (hk : k ∈ s.keysOf child) : e.primaryKey ≠ some k.column := by
  rw [h.column_eq he hk]
  exact hproper.referenceColumn_ne_key k.parent

/-- So no column that carries a foreign key is the child's own primary key. -/
theorem Linked.column_ne_key (h : s.Linked) {e : Entity} (he : s.entity? child = some e)
    (hproper : e.Proper child) (hc : c ∈ s.columns child) (hk : c.foreignKey = some k) :
    e.isKey c.name = false := by
  obtain ⟨hmem, hname⟩ := columns_foreignKey hc hk
  rw [hname]
  exact decide_eq_false (h.primaryKey_ne_column he hproper hmem)

end Schema

/-- Every entity of a schema that was made from a text is proper. -/
theorem Schema.proper_resolve {mode : Undeclared} {text : String} {s : Schema}
    (h : resolve mode (.ofText text) = .ok s) {name : String} {e : Entity}
    (he : s.entity? name = some e) : e.Proper name :=
  entities_resolve h (fun _ _ => Diagram.proper_ofText text) Entity.proper_placeholder he

/-! ## Plans of texts -/

/-- What is known of a plan that was made from a text. -/
structure Plan.Regular (p : Plan) : Prop where
  linked : p.schema.Linked
  proper : ∀ name e, p.schema.entity? name = some e → e.Proper name
  order_eq : p.order = .ofSchema p.schema

theorem Plan.resolve_of_ofText {mode : Undeclared} {text : String} {p : Plan}
    (h : Plan.ofText mode text = .ok p) :
    Schema.resolve mode (.ofText text) = .ok p.schema ∧ p.order = .ofSchema p.schema := by
  unfold Plan.ofText Plan.ofDiagram at h
  cases hs : Schema.resolve mode (.ofText text) with
  | error e =>
    rw [hs] at h
    exact absurd h (by simp [Except.map])
  | ok s =>
    rw [hs] at h
    obtain rfl := Except.ok.inj h
    exact ⟨rfl, rfl⟩

theorem Plan.regular_ofText {mode : Undeclared} {text : String} {p : Plan}
    (h : Plan.ofText mode text = .ok p) : p.Regular := by
  obtain ⟨hs, horder⟩ := resolve_of_ofText h
  exact ⟨Schema.linked_resolve hs, fun _ _ => Schema.proper_resolve hs, horder⟩

end Crowfoot
