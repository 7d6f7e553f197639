import Crowfoot.Proofs.Columns
import Crowfoot.Proofs.Reflection

/-!
# Parents that meet on a column

A child refers to a parent by a column whose name depends on the parent and on the child's own key.
Two parents meet if these columns are alike. There are two ways: their names differ in case only, or
the one is named like the other with `parent_` before it and the child's own key stands where the
column of that other would be.

A column is the key of one parent, so of parents that meet only the first has a foreign key. No
reference is lost if and only if no two parents of a child meet.
-/

namespace Crowfoot

open Text

/-! ## Names up to case -/

theorem foldCase_append (a b : String) : foldCase (a ++ b) = foldCase a ++ foldCase b := by
  unfold foldCase
  rw [String.toList_append, List.map_append]

theorem sameName_append_right_iff {a b c : String} : SameName (a ++ c) (b ++ c) ↔ SameName a b := by
  unfold SameName
  rw [foldCase_append, foldCase_append]
  exact List.append_left_inj _

theorem sameName_append_left_iff {a b c : String} : SameName (c ++ a) (c ++ b) ↔ SameName a b := by
  unfold SameName
  rw [foldCase_append, foldCase_append]
  exact List.append_right_inj _

theorem sameName_keyColumn_iff {p q : String} :
    SameName (keyColumn p) (keyColumn q) ↔ SameName p q := sameName_append_right_iff

/-! ## The column of a parent -/

namespace Entity

variable {e : Entity} {p q : String}

/-- The two parents would have one column of the child. -/
def Meet (e : Entity) (p q : String) : Prop :=
  SameName p q ∨ (e.OwnKey p ∧ SameName q ("parent_" ++ p)) ∨
    (e.OwnKey q ∧ SameName p ("parent_" ++ q))

instance (e : Entity) (p q : String) : Decidable (e.Meet p q) :=
  inferInstanceAs (Decidable (_ ∨ _ ∨ _))

/-- A column that is not beside the key has the plain name in some case. -/
theorem sameName_referenceColumn (h : ¬ e.OwnKey p) :
    SameName (e.referenceColumn p) (keyColumn p) := by
  rcases e.referenceColumn_cases p with ⟨_, hcolumn⟩ | ⟨a, _, hsame, _, hcolumn⟩ | ⟨hown, _⟩
  · exact congrArg foldCase hcolumn
  · rw [hcolumn]
    exact hsame
  · exact absurd hown h

theorem OwnKey.congr (h : SameName p q) (hp : e.OwnKey p) : e.OwnKey q := by
  have hcolumn : SameName (keyColumn p) (keyColumn q) := sameName_keyColumn_iff.mpr h
  have hsame : (fun a : Attribute => decide (SameName a.name (keyColumn p))) =
      fun a => decide (SameName a.name (keyColumn q)) := by
    funext a
    exact decide_eq_decide.mpr ⟨fun ha => ha.trans hcolumn, fun ha => ha.trans hcolumn.symm⟩
  obtain ⟨a, hfind, hkey⟩ := hp
  exact ⟨a, hsame ▸ hfind, hkey⟩

/-- A key has the name of one parent's column only. -/
theorem OwnKey.sameName (hp : e.OwnKey p) (hq : e.OwnKey q) : SameName p q := by
  obtain ⟨key, hkey, hsame⟩ := hp.exists_key
  obtain ⟨key', hkey', hsame'⟩ := hq.exists_key
  obtain rfl := Option.some.inj (hkey.symm.trans hkey')
  exact sameName_keyColumn_iff.mp (hsame.symm.trans hsame')

theorem parent_keyColumn (p : String) : "parent_" ++ keyColumn p = keyColumn ("parent_" ++ p) :=
  String.append_assoc.symm

/-- The columns of a key's parent and of another one. -/
theorem sameName_columns_of_ownKey (hp : e.OwnKey p) (hq : ¬ e.OwnKey q) :
    SameName (e.referenceColumn p) (e.referenceColumn q) ↔ SameName q ("parent_" ++ p) := by
  have hplain := sameName_referenceColumn hq
  rw [referenceColumn_of_ownKey hp, parent_keyColumn]
  constructor
  · intro h
    exact sameName_keyColumn_iff.mp (h.trans hplain).symm
  · intro h
    exact (sameName_keyColumn_iff.mpr h).symm.trans hplain.symm

/-- **Parents meet exactly when a child has one column for both.** -/
theorem sameName_columns_iff :
    SameName (e.referenceColumn p) (e.referenceColumn q) ↔ e.Meet p q := by
  unfold Meet
  -- a parent whose name leads to the child's own key has the longer column name
  by_cases hp : e.OwnKey p <;> by_cases hq : e.OwnKey q
  · have hsame := hp.sameName hq
    rw [referenceColumn_of_ownKey hp, referenceColumn_of_ownKey hq, sameName_append_left_iff,
      sameName_keyColumn_iff]
    exact ⟨Or.inl, fun _ => hsame⟩
  · have hpq : ¬ SameName p q := fun h => hq (hp.congr h)
    rw [sameName_columns_of_ownKey hp hq]
    simp [hp, hq, hpq]
  · have hpq : ¬ SameName p q := fun h => hp (hq.congr h.symm)
    have hcomm : SameName (e.referenceColumn p) (e.referenceColumn q) ↔
        SameName (e.referenceColumn q) (e.referenceColumn p) := eq_comm
    rw [hcomm, sameName_columns_of_ownKey hq hp]
    simp [hp, hq, hpq]
  · have hcolumns : SameName (e.referenceColumn p) (e.referenceColumn q) ↔
        SameName (keyColumn p) (keyColumn q) := by
      have h₁ := sameName_referenceColumn hp
      have h₂ := sameName_referenceColumn hq
      exact ⟨fun h => h₁.symm.trans (h.trans h₂), fun h => h₁.trans (h.trans h₂.symm)⟩
    rw [hcolumns, sameName_keyColumn_iff]
    simp [hp, hq]

end Entity

/-! ## References and their keys -/

namespace Diagram

variable {d : Diagram} {child parent : String}

theorem mem_parentsOf : parent ∈ d.parentsOf child ↔ (child, parent) ∈ d.references := by
  unfold parentsOf
  rw [List.mem_map]
  constructor
  · intro h
    obtain ⟨ref, hmem, rfl⟩ := h
    obtain ⟨href, hchild⟩ := List.mem_filter.mp hmem
    exact of_decide_eq_true hchild ▸ href
  · intro h
    exact ⟨_, List.mem_filter.mpr ⟨h, decide_eq_true rfl⟩, rfl⟩

theorem mem_keysOf {k : ForeignKey} (h : k ∈ d.keysOf child) :
    k.parent ∈ d.parentsOf child ∧ k = d.keyTo child k.parent := by
  obtain ⟨parent, hparent, rfl⟩ := List.mem_map.mp ((firsts_sublist _ _).subset h)
  exact ⟨hparent, rfl⟩

/-- **A parent has a key if none before it meets it.** -/
theorem exists_key_iff :
    (∃ k ∈ d.keysOf child, k.parent = parent) ↔
      ∃ before after, d.parentsOf child = before ++ parent :: after ∧
        ∀ other ∈ before, ¬ (d.entityOf child).Meet other parent := by
  constructor
  · intro h
    obtain ⟨k, hk, rfl⟩ := h
    obtain ⟨_, hkey⟩ := mem_keysOf hk
    -- a key that is kept is the first of its column, and its column tells its parents
    obtain ⟨before, after, hsplit, hnew⟩ := mem_firsts_iff.mp hk
    obtain ⟨first, rest, hparents, rfl, hrest⟩ := List.map_eq_append_iff.mp hsplit
    obtain ⟨p, after', rfl, hp, rfl⟩ := List.map_eq_cons_iff.mp hrest
    have hname : p = k.parent := congrArg ForeignKey.parent hp
    refine ⟨first, after', hname ▸ hparents, fun other hother hmeet => hnew ?_⟩
    rw [List.map_map]
    refine List.mem_map.mpr ⟨other, hother, ?_⟩
    have hsame := Entity.sameName_columns_iff.mpr hmeet
    rw [hkey]
    exact hsame
  · intro h
    obtain ⟨before, after, hsplit, hnone⟩ := h
    -- the other way round, a parent that meets none before it has the first key of its column
    refine ⟨d.keyTo child parent, mem_firsts_iff.mpr ⟨before.map (d.keyTo child),
      after.map (d.keyTo child), ?_, fun hmem => ?_⟩, rfl⟩
    · rw [hsplit, List.map_append, List.map_cons]
    · rw [List.map_map] at hmem
      obtain ⟨other, hother, hsame⟩ := List.mem_map.mp hmem
      exact hnone other hother (Entity.sameName_columns_iff.mp hsame)

/-- Whatever meets a parent is met by one that has a key. -/
theorem exists_key_meeting (h : parent ∈ d.parentsOf child) :
    ∃ k ∈ d.keysOf child, (d.entityOf child).Meet k.parent parent := by
  have hmem : foldCase (d.keyTo child parent).column ∈
      (d.keysOf child).map (foldCase ·.column) :=
    mem_map_firsts.mpr (List.mem_map_of_mem (List.mem_map_of_mem h))
  obtain ⟨k, hk, hsame⟩ := List.mem_map.mp hmem
  rw [(mem_keysOf hk).2] at hsame
  exact ⟨k, hk, Entity.sameName_columns_iff.mp hsame⟩

/-- **No reference is lost if and only if no two parents of a child meet.** -/
theorem references_kept_iff :
    (∀ child parent, (child, parent) ∈ d.references → ∃ k ∈ d.keysOf child, k.parent = parent) ↔
      ∀ child p q, (child, p) ∈ d.references → (child, q) ∈ d.references →
        (d.entityOf child).Meet p q → p = q := by
  constructor
  · intro hall child p q hp hq hmeet
    obtain ⟨k, hk, rfl⟩ := hall child p hp
    obtain ⟨k', hk', rfl⟩ := hall child q hq
    -- keys of one column are one key
    have hsame : foldCase k.column = foldCase k'.column := by
      rw [(mem_keysOf hk).2, (mem_keysOf hk').2]
      exact Entity.sameName_columns_iff.mpr hmeet
    have hkeys : k = k' := List.inj_on_of_nodup_map (nodup_map_firsts _ _) hk hk' hsame
    exact congrArg ForeignKey.parent hkeys
  · intro hnone child parent href
    obtain ⟨k, hk, hmeet⟩ := exists_key_meeting (mem_parentsOf.mpr href)
    exact ⟨k, hk, hnone child _ _ (mem_parentsOf.mp (mem_keysOf hk).1) href hmeet⟩

end Diagram

namespace Schema

/--
**A reference has a foreign key unless an earlier parent of its child meets its own.**

Every foreign key stems from a one-to-many relationship, oriented as its connector says. A parent
has a key of the child if and only if none of the child's parents before it meets it. So foreign
keys and references agree if and only if no child has two parents that meet.
-/
theorem references_kept {mode : Undeclared} {d : Diagram} {s : Schema}
    (h : resolve mode d = .ok s) :
    (∀ child, ∀ k ∈ s.keysOf child, (child, k.parent) ∈ d.references) ∧
    (∀ child parent, (∃ k ∈ s.keysOf child, k.parent = parent) ↔
      ∃ before after, d.parentsOf child = before ++ parent :: after ∧
        ∀ other ∈ before, ¬ (d.entityOf child).Meet other parent) ∧
    ((∀ child parent, (child, parent) ∈ d.references → ∃ k ∈ s.keysOf child, k.parent = parent) ↔
      ∀ child p q, (child, p) ∈ d.references → (child, q) ∈ d.references →
        (d.entityOf child).Meet p q → p = q) := by
  have hkeys := (reflects_resolve h).keys
  refine ⟨fun child k hk => ?_, fun child parent => ?_, ?_⟩
  · rw [hkeys] at hk
    exact Diagram.mem_parentsOf.mp (Diagram.mem_keysOf hk).1
  · rw [hkeys]
    exact Diagram.exists_key_iff
  · simp only [hkeys]
    exact Diagram.references_kept_iff

/-- A parent `parent_Node` after a `Node` that refers to itself beside its own key. -/
def besideKey : Diagram :=
  .ofText ("entity Node \x7b\nnode_id : number <<generated>>\n\x7d\n"
    ++ "Node ||--o\x7b Node\nparent_Node ||--o\x7b Node\nGroup ||--o\x7b Node\n")

/-- The first and the last of the three references are kept, the one between them is not. -/
theorem references_kept_besideKey :
    ∃ s, resolve .synthesize besideKey = .ok s ∧
      besideKey.references = [("Node", "Node"), ("Node", "parent_Node"), ("Node", "Group")] ∧
      (besideKey.entityOf "Node").Meet "Node" "parent_Node" ∧
      (∃ k ∈ s.keysOf "Node", k.parent = "Group") ∧
      ¬ ∀ child parent, (child, parent) ∈ besideKey.references →
        ∃ k ∈ s.keysOf child, k.parent = parent := by
  have heval : (resolve .synthesize besideKey).toOption.any (fun _ =>
      decide (besideKey.references = [("Node", "Node"), ("Node", "parent_Node"), ("Node", "Group")] ∧
        (besideKey.entityOf "Node").Meet "Node" "parent_Node" ∧
        besideKey.parentsOf "Node" = ["Node", "parent_Node"] ++ "Group" :: [] ∧
        ∀ other ∈ ["Node", "parent_Node"], ¬ (besideKey.entityOf "Node").Meet other "Group")) =
      true := by
    decide +kernel
  obtain ⟨s, hs, htest⟩ := exists_ok_of_any heval
  obtain ⟨hreferences, hmeet, hsplit, hnone⟩ := of_decide_eq_true htest
  obtain ⟨_, hkept, hiff⟩ := references_kept hs
  refine ⟨s, hs, hreferences, hmeet, (hkept _ _).mpr ⟨_, _, hsplit, hnone⟩, fun hall => ?_⟩
  have hsame := hiff.mp hall "Node" "Node" "parent_Node" (by simp [hreferences])
    (by simp [hreferences]) hmeet
  exact absurd hsame (by decide)

/-- Two entities whose names differ in case are parents of one child, and one has no key of it. -/
theorem reference_lost_case_variant :
    ∃ s, resolve .synthesize (.ofText "A ||--o\x7b C\na ||--o\x7b C\n") = .ok s ∧
      ("C", "a") ∈ (Diagram.ofText "A ||--o\x7b C\na ||--o\x7b C\n").references ∧
      ¬ ∃ k ∈ s.keysOf "C", k.parent = "a" := by
  have heval : (resolve .synthesize (.ofText "A ||--o\x7b C\na ||--o\x7b C\n")).toOption.any (fun s =>
      decide (("C", "a") ∈ (Diagram.ofText "A ||--o\x7b C\na ||--o\x7b C\n").references ∧
        ∀ k ∈ s.keysOf "C", k.parent ≠ "a")) = true := by
    decide +kernel
  obtain ⟨s, hs, htest⟩ := exists_ok_of_any heval
  obtain ⟨href, hnone⟩ := of_decide_eq_true htest
  exact ⟨s, hs, href, fun ⟨k, hk, hparent⟩ => hnone k hk hparent⟩

end Schema

end Crowfoot
