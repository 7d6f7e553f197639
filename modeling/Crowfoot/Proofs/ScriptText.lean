import Crowfoot.Proofs.Abbreviations
import Crowfoot.Proofs.Script
import Crowfoot.Proofs.Statements

/-!
# The text of a script

The names in a script are those of the diagram, and what is glued from them: names all of them. The
types of columns are not, since a word that is not built in is taken as it stands. Where each of
them is a type, the text of the script says what its statements do.
-/

namespace Crowfoot

open Sql Text

/-! ## Types -/

/-- The type of a column has no blanks, as no word of a type has any. -/
theorem Attribute.Spelled.unbroken_columnType {a : Attribute} (h : a.Spelled) :
    Unbroken (columnType a.type) := by
  have hword := h.unbroken
  cases hkind : a.type with
  | other token =>
    rw [hkind] at hword
    intro c hc
    rw [columnType, String.toList_ofList] at hc
    exact not_isBlank_of_mem_upper hword hc
  | _ => decide +kernel

namespace Plan

variable {p : Plan} {mode : Undeclared} {text : String} {name child : String} {e : Entity}
  {k : ForeignKey} {t : JoinTable} {stmt : Statement} {kind : String → Prop}

/-- The types of the columns are of the kind: those of attributes, and that of a number. -/
structure HasTypes (p : Plan) (kind : String → Prop) : Prop where
  number : kind (columnType .number)
  declared : ∀ e ∈ p.entities, ∀ a ∈ e.attributes, kind (columnType a.type)

/-- Each attribute has a type for its column. -/
def HasSqlTypes (p : Plan) : Prop :=
  ∀ e ∈ p.entities, ∀ a ∈ e.attributes, isType (columnType a.type) = true

instance (p : Plan) : Decidable p.HasSqlTypes :=
  inferInstanceAs (Decidable (∀ e ∈ p.entities, ∀ a ∈ e.attributes, _))

theorem hasTypes_unbroken (h : ofText mode text = .ok p) : p.HasTypes Unbroken where
  number := by decide +kernel
  declared := fun e he a ha => ((spelled_of_ofText h e he).attributes a ha).unbroken_columnType

theorem HasSqlTypes.hasTypes (htypes : p.HasSqlTypes) (h : ofText mode text = .ok p) :
    p.HasTypes IsColumnType where
  number := by decide +kernel
  declared := fun e he a ha => ⟨htypes e he a ha, (hasTypes_unbroken h).declared e he a ha⟩

theorem HasTypes.of_mem (htypes : p.HasTypes kind) (h : ofText mode text = .ok p)
    (he : p.schema.entity? name = some e) {a : Attribute} (ha : a ∈ e.attributes) :
    kind (columnType a.type) :=
  htypes.declared e ((regular_ofText h).mem_entities.mpr ⟨name, he⟩) a ha

/-- A key is an attribute. -/
theorem HasTypes.keyType (htypes : p.HasTypes kind) (h : ofText mode text = .ok p) (name : String) :
    kind (keyType p.schema name) := by
  unfold Sql.keyType
  cases hkey : (p.schema.entity? name).bind Entity.keyAttribute? with
  | none => exact htypes.number
  | some a =>
    obtain ⟨e, he, ha⟩ := Option.bind_eq_some_iff.mp hkey
    obtain ⟨key, _, ha⟩ := Option.bind_eq_some_iff.mp ha
    exact htypes.of_mem h he (List.mem_of_find?_eq_some ha)

/-! ## Names -/

theorem isName_of_mem_entities (h : ofText mode text = .ok p) (hname : name ∈ p.schema.entities) :
    IsName name := by
  have hmem := (regular_ofText h).mem_order.mpr hname
  exact isName_of_mem_tableNames h (List.mem_append_left _ hmem)

theorem isName_attribute (h : ofText mode text = .ok p) (he : p.schema.entity? name = some e)
    {a : Attribute} (ha : a ∈ e.attributes) : IsName a.name :=
  ((Schema.spelled_of_resolve (resolve_of_ofText h).1 he).attributes a ha).name

theorem isName_keyColumn (hname : IsName name) : IsName (keyColumn name) := by
  have hid : IsName "_id" := by decide +kernel
  exact hname.append hid.2

/-- The primary key is declared. -/
theorem isName_primaryKey (h : ofText mode text = .ok p) (he : p.schema.entity? name = some e)
    {key : String} (hkey : e.primaryKey = some key) : IsName key := by
  obtain ⟨a, ha, rfl⟩ := ((regular_ofText h).proper name e he).key_declared key hkey
  exact isName_attribute h he ha

/-- The column of a reference is made of the parent's name, or is declared. -/
theorem isName_column (h : ofText mode text = .ok p) (hk : k ∈ p.schema.keysOf child) :
    IsName k.column := by
  have hlinked := (regular_ofText h).linked
  obtain ⟨hchild, hparent⟩ := hlinked.ends child k hk
  obtain ⟨e, he⟩ := (p.schema.mem_entities_iff child).mp hchild
  have hkey := isName_keyColumn (isName_of_mem_entities h hparent)
  rw [hlinked.column_eq he hk]
  rcases e.referenceColumn_cases k.parent with ⟨_, hcolumn⟩ | ⟨a, ha, _, _, hcolumn⟩ | ⟨_, hcolumn⟩
  · rw [hcolumn]
    exact hkey
  · rw [hcolumn]
    exact isName_attribute h he ha
  · have hfront : IsName "parent_" := by decide +kernel
    rw [hcolumn]
    exact hfront.append hkey.2

theorem isName_side (h : ofText mode text = .ok p) (ht : t ∈ p.schema.joinTables) {side : JoinSide}
    (hside : side ∈ [t.left, t.right]) : IsName side.column ∧ IsName side.entity := by
  obtain ⟨left, right, line, hleft, hright, rfl⟩ := Schema.exists_ofPair (resolve_of_ofText h).1 ht
  rcases List.mem_pair.mp hside with rfl | rfl
  · exact ⟨isName_keyColumn hleft, hleft⟩
  · refine ⟨?_, hright⟩
    show IsName (if keyColumn right = keyColumn left then keyColumn right ++ "_2"
      else keyColumn right)
    split
    · have htwo : IsName "_2" := by decide +kernel
      exact (isName_keyColumn hright).append htwo.2
    · exact isName_keyColumn hright

/-! ## Statements -/

/-- The type of a column is declared, or that of a key. -/
theorem spelled_columnDef (h : ofText mode text = .ok p) (htypes : p.HasTypes kind)
    (he : p.schema.entity? name = some e) {c : Column} (hc : c ∈ p.schema.columns name) :
    (columnDef p.schema e c).Spelled kind := by
  rcases (Schema.mem_columns_iff he).mp hc with ⟨a, ha, rfl⟩ | ⟨k, hk, _, rfl⟩
  · exact ⟨isName_attribute h he ha, htypes.of_mem h he ha⟩
  · exact ⟨isName_column h hk, htypes.keyType h k.parent⟩

theorem spelled_entityTable (h : ofText mode text = .ok p) (htypes : p.HasTypes kind)
    (he : p.schema.entity? name = some e) : (entityTable p.schema e).Spelled kind := by
  have hname := (Schema.spelled_of_resolve (resolve_of_ofText h).1 he).name
  obtain rfl := ((regular_ofText h).proper name e he).named
  by_cases hcolumns : p.schema.columns e.name = []
  · rw [entityTable_of_nil hcolumns]
    exact hname
  · rw [entityTable_of_columns hcolumns]
    refine spelled_createTable hname (by simpa using hcolumns) (fun definition hdefinition => ?_)
      (fun key hkey => isName_primaryKey h he (Option.mem_toList.mp hkey)) nofun
    obtain ⟨c, hc, rfl⟩ := List.mem_map.mp hdefinition
    exact spelled_columnDef h htypes he hc

theorem spelled_foreignKey (h : ofText mode text = .ok p) (hk : k ∈ p.schema.keysOf child) :
    (foreignKey child k).Spelled kind := by
  have hlinked := (regular_ofText h).linked
  obtain ⟨hchild, hparent⟩ := hlinked.ends child k hk
  obtain ⟨e, he⟩ := (p.schema.mem_entities_iff k.parent).mp hparent
  have hchild := isName_of_mem_entities h hchild
  have hparent := isName_of_mem_entities h hparent
  cases hkey : k.parentKey with
  | none =>
    rw [foreignKey_of_none hkey]
    exact ⟨hchild, isName_column h hk, hparent⟩
  | some key =>
    rw [foreignKey_of_some hkey]
    rw [hlinked.parentKey_eq hk he] at hkey
    exact ⟨hchild, isName_column h hk, hparent, isName_primaryKey h he hkey⟩

theorem spelled_joinTable (h : ofText mode text = .ok p) (htypes : p.HasTypes kind)
    (ht : t ∈ p.schema.joinTables) : (joinTable p.schema t).Spelled kind := by
  refine spelled_createTable (Schema.isName_joinTable (resolve_of_ofText h).1 ht)
    (List.cons_ne_nil _ _) (fun c hc => ?_) (fun key hkey => ?_) fun r hr => ?_
  · obtain ⟨side, hside, rfl⟩ := List.mem_map.mp hc
    exact ⟨(isName_side h ht hside).1, htypes.keyType h side.entity⟩
  · rcases List.mem_pair.mp hkey with rfl | rfl
    · exact (isName_side h ht (List.mem_cons_self ..)).1
    · exact (isName_side h ht (List.mem_cons_of_mem _ (List.mem_singleton_self _))).1
  · obtain ⟨side, hside, hr⟩ := List.mem_filterMap.mp hr
    obtain ⟨key, hkey, rfl⟩ := Option.map_eq_some_iff.mp hr
    obtain ⟨e, he, hkey⟩ := Option.bind_eq_some_iff.mp hkey
    obtain ⟨hcolumn, hentity⟩ := isName_side h ht hside
    exact ⟨hcolumn, hentity, isName_primaryKey h he hkey⟩

/-- **The names in a script are names, and its types are those of the diagram.** -/
theorem spelled_statements (h : ofText mode text = .ok p) (htypes : p.HasTypes kind) :
    ∀ stmt ∈ p.script.statements, stmt.Spelled kind := by
  intro stmt hstmt
  rcases List.mem_append.mp hstmt with hstmt | hstmt
  · rcases List.mem_append.mp hstmt with hstmt | hstmt
    · obtain ⟨name, _, e, he, rfl⟩ := mem_script_tables.mp hstmt
      exact spelled_entityTable h htypes he
    · obtain ⟨child, _, k, hk, rfl⟩ := mem_script_foreignKeys.mp hstmt
      exact spelled_foreignKey h hk
  · obtain ⟨t, ht, rfl⟩ := mem_script_joinTables.mp hstmt
    exact spelled_joinTable h htypes ht

/-- **The text of a script is read back as its statements.** -/
theorem read?_sql (h : ofText mode text = .ok p) (htypes : p.HasSqlTypes) :
    read? p.sql = some p.script.statements :=
  read?_render (spelled_statements h (htypes.hasTypes h))

/--
**A script is self-contained, and references have the type of the key.**

For every text with a plan the statements of the script are self-contained: what they refer to is
created before, each thing is created once, and a column that is not declared has the type of the
first definition of the key that it holds. Where the declared types are types, these statements are
what the text of the script says.
-/
theorem script_selfContained (h : ofText mode text = .ok p) :
    SelfContained p.schema p.script.statements ∧
    (p.HasSqlTypes → read? p.sql = some p.script.statements) :=
  ⟨selfContained_statements h, read?_sql h⟩

/-- Two entities that refer to each other and to one without a key, which is also paired. -/
def crossing : String :=
  "entity A \x7b\nid : text <<generated>>\nprice : decimal(10,2)\n\x7d\n"
    ++ "entity B \x7b\nkey : number <<generated>>\n\x7d\n"
    ++ "A ||--o\x7b B\nB ||--o\x7b A\nC ||--o\x7b A\nA \x7do--o\x7b C\n"

theorem script_selfContained_crossing :
    ∃ p, ofText .synthesize crossing = .ok p ∧ p.HasSqlTypes ∧
      p.script.foreignKeys = [.addForeignKey "B" ⟨"A_id", "A", "id"⟩,
        .addForeignKey "A" ⟨"B_id", "B", "key"⟩, .noParentKey "A" "C_id" "C"] ∧
      p.script.joinTables = [.createTable "A_C"
        [⟨"A_id", "VARCHAR(255)", true, false⟩, ⟨"C_id", "INT", true, false⟩] ["A_id", "C_id"]
        [⟨"A_id", "A", "id"⟩]] ∧
      SelfContained p.schema p.script.statements ∧ read? p.sql = some p.script.statements := by
  have heval : (ofText .synthesize crossing).toOption.any (fun p =>
      decide (p.HasSqlTypes ∧
        p.script.foreignKeys = [.addForeignKey "B" ⟨"A_id", "A", "id"⟩,
          .addForeignKey "A" ⟨"B_id", "B", "key"⟩, .noParentKey "A" "C_id" "C"] ∧
        p.script.joinTables = [.createTable "A_C"
          [⟨"A_id", "VARCHAR(255)", true, false⟩, ⟨"C_id", "INT", true, false⟩] ["A_id", "C_id"]
          [⟨"A_id", "A", "id"⟩]])) = true := by
    decide +kernel
  obtain ⟨p, hp, htest⟩ := exists_ok_of_any heval
  obtain ⟨htypes, hkeys, hjoins⟩ := of_decide_eq_true htest
  obtain ⟨hself, hread⟩ := script_selfContained hp
  exact ⟨p, hp, htypes, hkeys, hjoins, hself, hread htypes⟩

/-- A type with a comma and another column behind it, named like the key. -/
def columnInType : String :=
  "entity A \x7b\n  a : int,\x60id\x60text\n  ID : number <<generated>>\n\x7d\nA ||--o\x7b B\n"

/-- What the script says where a type has a column in it. -/
def columnInTypeStatements : List Statement :=
  [.createTable "A" [⟨"a", "INT", false, false⟩, ⟨"ID", "TEXT", false, false⟩,
      ⟨"ID", "INT", true, true⟩] ["ID"] [],
    .createTable "B" [⟨"A_id", "INT", false, false⟩] [] [],
    .addForeignKey "B" ⟨"A_id", "A", "ID"⟩]

/-- The first definition of the key is the one in the type, and its type is not the reference's. -/
theorem script_not_selfContained_columnInType :
    ∃ p, ofText .synthesize columnInType = .ok p ∧ read? p.sql = some columnInTypeStatements ∧
      ¬ SelfContained p.schema columnInTypeStatements := by
  have heval : (ofText .synthesize columnInType).toOption.any (fun p =>
      decide (read? p.sql = some columnInTypeStatements ∧
        (p.schema.entity? "B").bind (·.attribute? "A_id") = none)) = true := by
    decide +kernel
  obtain ⟨p, hp, htest⟩ := exists_ok_of_any heval
  obtain ⟨hread, hderived⟩ := of_decide_eq_true htest
  refine ⟨p, hp, hread, fun hself => ?_⟩
  obtain ⟨key, ⟨columns, hparent, hfirst⟩, columns', _, hchild, _, htype⟩ :=
    hself.altered (columnInTypeStatements.take 2) "B" ⟨"A_id", "A", "ID"⟩ [] rfl
  have hkey : key.type = "TEXT" := by
    rcases List.mem_pair.mp hparent with he | he
    · obtain ⟨_, rfl, _⟩ := Statement.createTable.inj he
      rw [← Option.some.inj hfirst]
    · exact absurd (Statement.createTable.inj he).1 (by decide)
  rcases List.mem_pair.mp hchild with he | he
  · exact absurd (Statement.createTable.inj he).1 (by decide)
  · obtain ⟨_, rfl, _⟩ := Statement.createTable.inj he
    have hsame := htype hderived ⟨"A_id", "INT", false, false⟩ (List.mem_singleton_self _) rfl
    exact absurd (hsame.trans hkey) (by decide)

end Plan

end Crowfoot
