import Crowfoot.Proofs.TableNames
import Mathlib.Data.List.Nodup

/-!
# A script is self-contained

The tables of the entities come first and refer to nothing, so a statement with a reference has all
of them before it. A reference is to an entity with a key. The key is one of its attributes, and
the attributes are the first columns of its table: the table is there, it has a column for the key,
and the column of the reference was given the type of the first one.
-/

namespace Crowfoot

open Sql

/-! ## What a statement is about -/

namespace Sql

/-- The table that a statement creates, or has no columns for. -/
def Statement.table? : Statement → Option String
  | createTable name _ _ _ => some name
  | noColumns name => some name
  | addForeignKey _ _ => none
  | noParentKey _ _ _ => none

/-- The child and column of the foreign key that a statement adds, or has no parent's key for. -/
def Statement.foreignKey? : Statement → Option (String × String)
  | createTable _ _ _ _ => none
  | noColumns _ => none
  | addForeignKey child r => some (child, r.column)
  | noParentKey child column _ => some (child, column)

/-- The table of a reference is created with its key, and `key` is the first definition of that. -/
def KeyDefined (statements : List Statement) (r : Reference) (key : ColumnDef) : Prop :=
  ∃ columns, .createTable r.table columns [r.key] [] ∈ statements ∧
    columns.find? (·.name = r.key) = some key

/-- Statements that create what they refer to, each thing once and in time. -/
structure SelfContained (s : Schema) (statements : List Statement) : Prop where
  /-- An entity with columns has one table, with all of them. -/
  table : ∀ name e, s.entity? name = some e → s.columns name ≠ [] →
    ∃ columns, columns.map ColumnDef.name = s.columnNames name ∧
      statements.filter (·.table? = some name) =
        [.createTable name columns e.primaryKey.toList []]
  noTable : ∀ name ∈ s.entities, s.columns name = [] →
    statements.filter (·.table? = some name) = [.noColumns name]
  /-- A foreign key to an entity with a key is added once. -/
  constraint : ∀ child, ∀ k ∈ s.keysOf child, ∀ key,
    (s.entity? k.parent).bind Entity.primaryKey = some key →
      statements.filter (·.foreignKey? = some (child, k.column)) =
        [.addForeignKey child ⟨k.column, k.parent, key⟩]
  noConstraint : ∀ child, ∀ k ∈ s.keysOf child, ¬ s.HasKey k.parent →
    statements.filter (·.foreignKey? = some (child, k.column)) =
      [.noParentKey child k.column k.parent]
  /-- Both tables of a foreign key are there. A column that is not declared has the key's type. -/
  altered : ∀ before child r after, statements = before ++ .addForeignKey child r :: after →
    ∃ key, KeyDefined before r key ∧
      ∃ columns primaryKey, .createTable child columns primaryKey [] ∈ before ∧
        r.column ∈ columns.map ColumnDef.name ∧
        ((s.entity? child).bind (·.attribute? r.column) = none →
          ∀ c ∈ columns, c.name = r.column → c.type = key.type)
  /-- The tables that a new table refers to are there. Its column has the key's type. -/
  joined : ∀ before name columns primaryKey references after,
    statements = before ++ .createTable name columns primaryKey references :: after →
      ∀ r ∈ references, ∃ key, KeyDefined before r key ∧ r.column ∈ columns.map ColumnDef.name ∧
        ∀ c ∈ columns, c.name = r.column → c.type = key.type

variable {s : Schema} {e : Entity} {child : String} {k : ForeignKey} {t : JoinTable}

theorem entityTable_table? : (entityTable s e).table? = some e.name := by
  unfold entityTable
  split <;> rfl

theorem entityTable_foreignKey? : (entityTable s e).foreignKey? = none := by
  unfold entityTable
  split <;> rfl

theorem foreignKey_table? : (foreignKey child k).table? = none := by
  unfold foreignKey
  split <;> rfl

theorem foreignKey_foreignKey? : (foreignKey child k).foreignKey? = some (child, k.column) := by
  unfold foreignKey
  split <;> rfl

theorem entityTable_of_columns (h : s.columns e.name ≠ []) :
    entityTable s e =
      .createTable e.name ((s.columns e.name).map (columnDef s e)) e.primaryKey.toList [] := by
  unfold entityTable
  split
  · exact absurd ‹_› h
  · rfl

theorem entityTable_of_nil (h : s.columns e.name = []) : entityTable s e = .noColumns e.name := by
  unfold entityTable
  rw [h]

theorem foreignKey_of_some {key : String} (h : k.parentKey = some key) :
    foreignKey child k = .addForeignKey child ⟨k.column, k.parent, key⟩ := by
  unfold foreignKey
  rw [h]

theorem foreignKey_of_none (h : k.parentKey = none) :
    foreignKey child k = .noParentKey child k.column k.parent := by
  unfold foreignKey
  rw [h]

theorem KeyDefined.mono {before statements : List Statement} {r : Reference} {key : ColumnDef}
    (h : KeyDefined before r key) (hsub : before ⊆ statements) : KeyDefined statements r key := by
  obtain ⟨columns, hmem, hfirst⟩ := h
  exact ⟨columns, hsub hmem, hfirst⟩

theorem entityTable_ne_of_foreignKey? {stmt : Statement} {x : String × String}
    (h : stmt.foreignKey? = some x) : entityTable s e ≠ stmt := by
  intro he
  rw [← he, entityTable_foreignKey?] at h
  exact absurd h nofun

theorem foreignKey_ne_of_table? {stmt : Statement} {name : String} (h : stmt.table? = some name) :
    foreignKey child k ≠ stmt := by
  intro he
  rw [← he, foreignKey_table?] at h
  exact absurd h nofun

theorem entityTable_ne_of_mem {name : String} {columns : List ColumnDef} {primaryKey : List String}
    {references : List Reference} {r : Reference} (hr : r ∈ references) :
    entityTable s e ≠ .createTable name columns primaryKey references := by
  unfold entityTable
  split
  · exact nofun
  · intro h
    obtain ⟨_, _, _, rfl⟩ := Statement.createTable.inj h
    exact absurd hr (by simp)

end Sql

/-! ## The columns of join tables -/

theorem JoinTable.ofPair_columns_ne (left right : String) (line : Nat) :
    (ofPair left right line).right.column ≠ (ofPair left right line).left.column := by
  unfold ofPair
  dsimp only
  split
  · rename_i hsame
    intro h
    have hlength := congrArg String.length (h.trans hsame.symm)
    rw [String.length_append] at hlength
    have : "_2".length = 2 := rfl
    omega
  · assumption

namespace Schema

variable {mode : Undeclared} {d : Diagram} {s : Schema} {t : JoinTable}

theorem joinTable_columns_ne (h : resolve mode d = .ok s) (ht : t ∈ s.joinTables) :
    t.right.column ≠ t.left.column := by
  rw [(reflects_resolve h).joins] at ht
  obtain ⟨r, _, rfl⟩ := Diagram.mem_joinTables ht
  exact JoinTable.ofPair_columns_ne r.left r.right r.line

end Schema

/-- The first definition of an attribute's name is that of the attribute. -/
theorem find?_columnDefs {s : Schema} {name column : String} {e : Entity} {a : Attribute}
    (he : s.entity? name = some e) (ha : e.attribute? column = some a) :
    ((s.columns name).map (columnDef s e)).find? (·.name = column) =
      some (columnDef s e ⟨a.name, some a, (s.keysOf name).find? (·.column = a.name)⟩) := by
  have hfirst : (e.attributes.map fun a =>
      columnDef s e ⟨a.name, some a, (s.keysOf name).find? (·.column = a.name)⟩).find?
        (·.name = column) =
          some (columnDef s e ⟨a.name, some a, (s.keysOf name).find? (·.column = a.name)⟩) := by
    rw [List.find?_map]
    exact congrArg (Option.map _) ha
  unfold Schema.columns
  simp only [he]
  rw [List.map_append, List.map_map, List.find?_append]
  exact congrArg (Option.or · _) hfirst

/-! ## Each thing once -/

namespace Plan

variable {p : Plan} {mode : Undeclared} {text : String} {name child : String} {e : Entity}
  {k : ForeignKey} {r : Reference} {stmt : Statement}

/-- The script of a plan. -/
def script (p : Plan) : Script := .ofSchema p.schema p.order

theorem mem_script_joinTables :
    stmt ∈ p.script.joinTables ↔ ∃ t ∈ p.schema.joinTables, joinTable p.schema t = stmt :=
  List.mem_map

theorem mem_script_foreignKeys : stmt ∈ p.script.foreignKeys ↔
    ∃ child ∈ p.order.entities, ∃ k ∈ p.schema.keysOf child, foreignKey child k = stmt := by
  simp [script, Script.ofSchema]

theorem mem_script_tables : stmt ∈ p.script.tables ↔ ∃ name ∈ p.order.entities,
    ∃ e, p.schema.entity? name = some e ∧ entityTable p.schema e = stmt := by
  simp only [script, Script.ofSchema, List.mem_map, List.mem_filterMap]
  constructor
  · intro h
    obtain ⟨e, ⟨name, hname, he⟩, rfl⟩ := h
    exact ⟨name, hname, e, he, rfl⟩
  · intro h
    obtain ⟨name, hname, e, he, rfl⟩ := h
    exact ⟨e, ⟨name, hname, he⟩, rfl⟩

theorem mem_script_cases (h : stmt ∈ p.script.statements) :
    (∃ e, entityTable p.schema e = stmt) ∨
      (∃ child, ∃ k ∈ p.schema.keysOf child, foreignKey child k = stmt) ∨
      ∃ t ∈ p.schema.joinTables, joinTable p.schema t = stmt := by
  rcases List.mem_append.mp h with h | h
  · rcases List.mem_append.mp h with h | h
    · obtain ⟨_, _, e, _, he⟩ := mem_script_tables.mp h
      exact Or.inl ⟨e, he⟩
    · obtain ⟨child, _, k, hk, he⟩ := mem_script_foreignKeys.mp h
      exact Or.inr (Or.inl ⟨child, k, hk, he⟩)
  · exact Or.inr (Or.inr (mem_script_joinTables.mp h))

/-- A table that refers to something is a join table. -/
theorem createTable_mem {columns : List ColumnDef} {primaryKey : List String}
    {references : List Reference} (hr : r ∈ references)
    (h : .createTable name columns primaryKey references ∈ p.script.statements) :
    ∃ t ∈ p.schema.joinTables,
      joinTable p.schema t = .createTable name columns primaryKey references := by
  rcases mem_script_cases h with ⟨e, he⟩ | ⟨child, k, _, he⟩ | hjoin
  · exact absurd he (entityTable_ne_of_mem hr)
  · exact absurd he (foreignKey_ne_of_table? rfl)
  · exact hjoin

namespace Regular

theorem entityTable_mem (hp : p.Regular) (he : p.schema.entity? name = some e) :
    entityTable p.schema e ∈ p.script.tables := by
  have hname := (p.schema.mem_entities_iff name).mpr ⟨e, he⟩
  exact mem_script_tables.mpr ⟨name, hp.mem_order.mpr hname, e, he, rfl⟩

theorem foreignKey_mem (hp : p.Regular) (hk : k ∈ p.schema.keysOf child) :
    foreignKey child k ∈ p.script.foreignKeys := by
  have hchild := (hp.linked.ends child k hk).1
  exact mem_script_foreignKeys.mpr ⟨child, hp.mem_order.mpr hchild, k, hk, rfl⟩

theorem nodup_foreignKeys (hp : p.Regular) :
    (p.script.foreignKeys.map Statement.foreignKey?).Nodup := by
  have hpiece : ∀ child, ((p.schema.keysOf child).map (foreignKey child)).map Statement.foreignKey? =
      (p.schema.keysOf child).map fun k => some (child, k.column) := by
    intro child
    rw [List.map_map]
    exact List.map_congr_left fun k _ => foreignKey_foreignKey?
  unfold script Script.ofSchema
  dsimp only
  rw [List.map_flatMap]
  simp only [hpiece]
  rw [List.nodup_flatMap]
  -- within a child the columns are apart, and no child comes twice
  constructor
  · intro child _
    refine List.pairwise_map.mpr ((hp.linked.apart child).imp fun hne he => hne ?_)
    exact congrArg Text.foldCase (Prod.mk.inj (Option.some.inj he)).2
  · refine hp.nodup_order.imp fun hne x hx hy => hne ?_
    obtain ⟨_, _, rfl⟩ := List.mem_map.mp hx
    obtain ⟨_, _, he⟩ := List.mem_map.mp hy
    exact (Prod.mk.inj (Option.some.inj he)).1.symm

/-- **The script has a statement for every table, in the order of the tables.** -/
theorem filterMap_table? (hp : p.Regular) :
    p.script.statements.filterMap Statement.table? = p.tableNames := by
  have hentities : p.script.tables.filterMap Statement.table? = p.order.entities := by
    unfold script Script.ofSchema
    rw [List.filterMap_map, List.filterMap_filterMap]
    refine (List.filterMap_congr fun name hname => ?_).trans List.filterMap_some
    obtain ⟨e, he⟩ := (p.schema.mem_entities_iff name).mp (hp.mem_order.mp hname)
    rw [he, Option.bind_some, Function.comp_apply, entityTable_table?, (hp.proper name e he).named]
  -- constraints are for no table of their own
  have hkeys : p.script.foreignKeys.filterMap Statement.table? = [] := by
    rw [List.filterMap_eq_nil_iff]
    intro stmt hstmt
    obtain ⟨child, _, k, _, rfl⟩ := mem_script_foreignKeys.mp hstmt
    exact foreignKey_table?
  have hjoins : p.script.joinTables.filterMap Statement.table? =
      p.schema.joinTables.map JoinTable.name := by
    unfold script Script.ofSchema
    rw [List.filterMap_map, ← List.filterMap_eq_map]
    rfl
  unfold Script.statements
  rw [List.filterMap_append, List.filterMap_append, hentities, hkeys, hjoins, List.append_nil]
  rfl

/-- A table has one statement. -/
theorem filter_eq_of_table? (hp : p.Regular) (h : ofText mode text = .ok p)
    (hstmt : stmt ∈ p.script.statements) (hname : stmt.table? = some name) :
    p.script.statements.filter (·.table? = some name) = [stmt] := by
  have hnodup : (p.script.statements.filterMap Statement.table?).Nodup := by
    rw [hp.filterMap_table?]
    exact nodup_tableNames h
  exact filter_eq_singleton_of_filterMap hnodup hstmt hname

theorem filter_table? (hp : p.Regular) (h : ofText mode text = .ok p)
    (he : p.schema.entity? name = some e) :
    p.script.statements.filter (·.table? = some name) = [entityTable p.schema e] := by
  have hmem : entityTable p.schema e ∈ p.script.statements :=
    List.mem_append_left _ (List.mem_append_left _ (hp.entityTable_mem he))
  refine hp.filter_eq_of_table? h hmem ?_
  rw [entityTable_table?, (hp.proper name e he).named]

theorem filter_joinTable (hp : p.Regular) (h : ofText mode text = .ok p) {join : JoinTable}
    (hjoin : join ∈ p.schema.joinTables) :
    p.script.statements.filter (·.table? = some join.name) = [joinTable p.schema join] := by
  have hmem : joinTable p.schema join ∈ p.script.statements :=
    List.mem_append_right _ (mem_script_joinTables.mpr ⟨join, hjoin, rfl⟩)
  exact hp.filter_eq_of_table? h hmem rfl

theorem filter_foreignKey? (hp : p.Regular) (hk : k ∈ p.schema.keysOf child) :
    p.script.statements.filter (·.foreignKey? = some (child, k.column)) = [foreignKey child k] := by
  have htables : p.script.tables.filter (·.foreignKey? = some (child, k.column)) = [] := by
    rw [List.filter_eq_nil_iff]
    intro stmt hstmt
    obtain ⟨_, _, e, _, rfl⟩ := mem_script_tables.mp hstmt
    simp [entityTable_foreignKey?]
  have hkeys : p.script.foreignKeys.filter (·.foreignKey? = some (child, k.column)) =
      [foreignKey child k] := by
    -- the columns of a child are different, so the key is found once
    have hone := filter_eq_singleton hp.nodup_foreignKeys (hp.foreignKey_mem hk)
    rwa [foreignKey_foreignKey?] at hone
  have hjoins : p.script.joinTables.filter (·.foreignKey? = some (child, k.column)) = [] := by
    rw [List.filter_eq_nil_iff]
    intro stmt hstmt
    obtain ⟨t, _, rfl⟩ := mem_script_joinTables.mp hstmt
    simp [joinTable, Statement.foreignKey?]
  unfold Script.statements
  rw [List.filter_append, List.filter_append, htables, hkeys, hjoins]
  rfl

/-! ## Each thing in time -/

theorem addForeignKey_mem_iff (hp : p.Regular) : .addForeignKey child r ∈ p.script.statements ↔
    ⟨r.column, r.table, some r.key⟩ ∈ p.schema.keysOf child := by
  constructor
  · intro h
    rcases mem_script_cases h with ⟨e, he⟩ | ⟨other, k, hk, he⟩ | ⟨t, _, he⟩
    · exact absurd he (entityTable_ne_of_foreignKey? rfl)
    · -- only a key with a parent key is added, and it tells the reference
      cases hkey : k.parentKey with
      | none =>
        rw [foreignKey_of_none hkey] at he
        exact absurd he nofun
      | some key =>
        rw [foreignKey_of_some hkey] at he
        obtain ⟨rfl, rfl⟩ := Statement.addForeignKey.inj he
        rw [← hkey]
        exact hk
    · exact absurd he nofun
  · intro hk
    rw [← foreignKey_of_some (k := ⟨r.column, r.table, some r.key⟩) rfl]
    exact List.mem_append_left _ (List.mem_append_right _ (hp.foreignKey_mem hk))

/-- **The table of an entity with a key defines the key, first of all in the key's type.** -/
theorem exists_keyDefined (hp : p.Regular)
    (hkey : (p.schema.entity? r.table).bind Entity.primaryKey = some r.key) :
    ∃ key, KeyDefined p.script.tables r key ∧ key.type = keyType p.schema r.table := by
  obtain ⟨e, he, hkey⟩ := Option.bind_eq_some_iff.mp hkey
  have hproper := hp.proper r.table e he
  obtain ⟨a, ha⟩ : ∃ a, e.attribute? r.key = some a := by
    obtain ⟨a, ha, hname⟩ := hproper.key_declared r.key hkey
    exact Option.isSome_iff_exists.mp (List.find?_isSome.mpr ⟨a, ha, decide_eq_true hname⟩)
  have hfirst := find?_columnDefs he ha
  have hcolumns : p.schema.columns e.name ≠ [] := by
    rw [hproper.named]
    intro hnil
    rw [hnil] at hfirst
    exact absurd hfirst nofun
  have hmem := hp.entityTable_mem he
  rw [entityTable_of_columns hcolumns, hproper.named, hkey] at hmem
  -- the first attribute of the key's name has both types
  refine ⟨_, ⟨_, hmem, hfirst⟩, ?_⟩
  simp [columnDef, typeOf, keyType, he, Entity.keyAttribute?, hkey, ha]

/-- **The table of a child defines the column, and unless it is declared in the key's type.** -/
theorem exists_columnDefined (hp : p.Regular) (hk : k ∈ p.schema.keysOf child) :
    ∃ columns primaryKey, .createTable child columns primaryKey [] ∈ p.script.tables ∧
      k.column ∈ columns.map ColumnDef.name ∧
      ((p.schema.entity? child).bind (·.attribute? k.column) = none →
        ∀ c ∈ columns, c.name = k.column → c.type = keyType p.schema k.parent) := by
  obtain ⟨e, he⟩ := (p.schema.mem_entities_iff child).mp (hp.linked.ends child k hk).1
  have hnamed := (hp.proper child e he).named
  obtain ⟨c, hc, hcarries⟩ := hp.linked.exists_column hk
  have hcolumns : p.schema.columns e.name ≠ [] := by
    rw [hnamed]
    exact List.ne_nil_of_mem hc
  have hmem := hp.entityTable_mem he
  rw [entityTable_of_columns hcolumns, hnamed] at hmem
  refine ⟨_, _, hmem, ?_, fun hderived definition hdefinition hname => ?_⟩
  · rw [← (Schema.columns_foreignKey hc hcarries).2]
    exact List.mem_map_of_mem (List.mem_map_of_mem hc)
  · -- the foreign keys of a child have different columns
    obtain ⟨other, hother, rfl⟩ := List.mem_map.mp hdefinition
    rw [he, Option.bind_some] at hderived
    rcases (Schema.mem_columns_iff he).mp hother with ⟨a, ha, rfl⟩ | ⟨k', hk', _, rfl⟩
    · -- an attribute of the name would be the column
      exact absurd hname (Entity.ne_of_attribute?_eq_none hderived ha)
    · have hsame := hp.linked.find?_column hk'
      rw [show k'.column = k.column from hname, hp.linked.find?_column hk] at hsame
      rw [Option.some.inj hsame]
      rfl

end Regular

/-- What is not the table of an entity stands behind all tables of entities. -/
theorem tables_subset {before after : List Statement}
    (h : p.script.statements = before ++ stmt :: after) (hnot : ∀ e, entityTable p.schema e ≠ stmt) :
    p.script.tables ⊆ before ∧ stmt ∈ p.script.statements := by
  have hout : stmt ∉ p.script.tables := by
    intro htable
    obtain ⟨_, _, e, _, he⟩ := mem_script_tables.mp htable
    exact hnot e he
  constructor
  · unfold Script.statements at h
    rw [List.append_assoc] at h
    exact subset_of_append_eq h hout
  · rw [h]
    exact List.mem_append_right _ (List.mem_cons_self ..)

theorem altered_in_time (hp : p.Regular) {before after : List Statement}
    (h : p.script.statements = before ++ .addForeignKey child r :: after) :
    ∃ key, KeyDefined before r key ∧
      ∃ columns primaryKey, .createTable child columns primaryKey [] ∈ before ∧
        r.column ∈ columns.map ColumnDef.name ∧
        ((p.schema.entity? child).bind (·.attribute? r.column) = none →
          ∀ c ∈ columns, c.name = r.column → c.type = key.type) := by
  obtain ⟨hsub, hmem⟩ := tables_subset h fun e => entityTable_ne_of_foreignKey? rfl
  have hk := hp.addForeignKey_mem_iff.mp hmem
  -- the key of the reference is the one that the parent has
  have hkey := congrArg ForeignKey.parentKey (hp.linked.key child _ hk)
  obtain ⟨key, hdefined, htype⟩ := hp.exists_keyDefined hkey.symm
  obtain ⟨columns, primaryKey, htable, hcolumn, hderived⟩ := hp.exists_columnDefined hk
  refine ⟨key, hdefined.mono hsub, columns, primaryKey, hsub htable, hcolumn, ?_⟩
  rw [htype]
  exact hderived

theorem joined_in_time (h : ofText mode text = .ok p) {before after : List Statement}
    {columns : List ColumnDef} {primaryKey : List String} {references : List Reference}
    (hsplit : p.script.statements =
      before ++ .createTable name columns primaryKey references :: after) (hr : r ∈ references) :
    ∃ key, KeyDefined before r key ∧ r.column ∈ columns.map ColumnDef.name ∧
      ∀ c ∈ columns, c.name = r.column → c.type = key.type := by
  obtain ⟨hsub, hmem⟩ := tables_subset hsplit fun e => entityTable_ne_of_mem hr
  obtain ⟨t, ht, he⟩ := createTable_mem hr hmem
  obtain ⟨_, rfl, _, rfl⟩ := Statement.createTable.inj he
  obtain ⟨side, hside, href⟩ := List.mem_filterMap.mp hr
  obtain ⟨key, hkey, rfl⟩ := Option.map_eq_some_iff.mp href
  have hdefines := (regular_ofText h).exists_keyDefined (r := ⟨side.column, side.entity, key⟩) hkey
  obtain ⟨definition, hdefined, htype⟩ := hdefines
  refine ⟨definition, hdefined.mono hsub, List.mem_map_of_mem (List.mem_map_of_mem hside), ?_⟩
  rw [htype]
  intro c hc hname
  obtain ⟨other, hother, rfl⟩ := List.mem_map.mp hc
  -- the two columns have different names, so a definition of the name is that of the side
  have hne := Schema.joinTable_columns_ne (resolve_of_ofText h).1 ht
  have hsame : other = side := by
    rcases List.mem_pair.mp hother with rfl | rfl <;> rcases List.mem_pair.mp hside with rfl | rfl
    · rfl
    · exact absurd hname.symm hne
    · exact absurd hname hne
    · rfl
  rw [hsame]
  rfl

/--
**The statements of a script are self-contained.**

An entity has one table or, without columns, one comment. A foreign key is added once or, if the
parent has no key, noted once. Where a statement refers to a key, the table with that primary key
stands before it, and so does the table that gets the reference. A column that the diagram does not
declare has the type of the key's first definition.
-/
theorem selfContained_statements (h : ofText mode text = .ok p) :
    SelfContained p.schema p.script.statements where
  table := by
    intro name e he hcolumns
    have hnamed := ((regular_ofText h).proper name e he).named
    refine ⟨(p.schema.columns name).map (columnDef p.schema e), ?_, ?_⟩
    · rw [List.map_map]
      rfl
    · rw [(regular_ofText h).filter_table? h he,
        entityTable_of_columns (hnamed.symm ▸ hcolumns), hnamed]
  noTable := by
    intro name hname hcolumns
    obtain ⟨e, he⟩ := (p.schema.mem_entities_iff name).mp hname
    have hnamed := ((regular_ofText h).proper name e he).named
    rw [(regular_ofText h).filter_table? h he, entityTable_of_nil (hnamed.symm ▸ hcolumns), hnamed]
  constraint := by
    intro child k hk key hkey
    -- keys of the schema know the keys of their parents
    have hparentKey := congrArg ForeignKey.parentKey ((regular_ofText h).linked.key child k hk)
    rw [(regular_ofText h).filter_foreignKey? hk, foreignKey_of_some (hparentKey.trans hkey)]
  noConstraint := by
    intro child k hk hkey
    rw [← (regular_ofText h).linked.parentKey_isSome_iff hk, Option.not_isSome_iff_eq_none] at hkey
    rw [(regular_ofText h).filter_foreignKey? hk, foreignKey_of_none hkey]
  altered := by
    intro before child r after hsplit
    exact altered_in_time (regular_ofText h) hsplit
  joined := by
    intro before name columns primaryKey references after hsplit r hr
    exact joined_in_time h hsplit hr

end Plan

end Crowfoot
