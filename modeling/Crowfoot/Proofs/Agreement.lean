import Crowfoot.Proofs.ScriptText
import Crowfoot.Proofs.Sources
import Crowfoot.Proofs.TableFiles
import Crowfoot.Random.Supply

/-!
# The script and the data describe the same tables

The script goes over the entities, their foreign keys and the join tables one after the other; the
data are filled table by table. Both take the columns of an entity from the schema, so a table has
in its header what the script defines, in that order. What the script promises of the rows is kept:
the keys of an entity count its rows, the pairs of a join table are all different, and no vocabulary
makes a null.
-/

namespace Crowfoot

open Fill Generation Sql

/-- The cells of a row in the first columns of those names. -/
def Table.cellsIn (t : Table) (columns : List String) (row : List Value) : List (Option Value) :=
  columns.map fun column => (t.columns.idxOf? column).bind (row[·]?)

/-- The columns are defined as the table has them, and no two of its rows agree on the key. -/
structure Table.CreatedBy (t : Table) (columns : List ColumnDef) (primaryKey : List String) :
    Prop where
  columns : columns.map ColumnDef.name = t.columns
  key : primaryKey ⊆ t.columns
  unique : primaryKey ≠ [] → (t.rows.map (t.cellsIn primaryKey)).Nodup

/-- Statements that create the tables the data are for, with constraints that the data keep. -/
structure Plan.Agrees {γ : Type} [Generator γ] (p : Plan) (statements : List Statement)
    (source : ValueSource γ) (d : Dataset) : Prop where
  /-- The tables are the same, and so is their order. -/
  tables : statements.filterMap Statement.table? = d.tables.map Table.name
  /-- An entity has one table in the data and one statement, which defines the columns of it. -/
  entity : ∀ name ∈ p.schema.entities, ∃ t, d.tables.filter (·.name = name) = [t] ∧
    t.kind = .entity ∧
    (t.columns = [] → statements.filter (·.table? = some name) = [.noColumns name]) ∧
    (t.columns ≠ [] → ∃ columns primaryKey, columns.map ColumnDef.name = t.columns ∧
      statements.filter (·.table? = some name) = [.createTable name columns primaryKey []])
  /-- So has a join table, and its two columns are its primary key. -/
  join : ∀ join ∈ p.schema.joinTables, ∃ t, d.tables.filter (·.name = join.name) = [t] ∧
    t.kind = .join ∧ t.columns.length = 2 ∧
    ∃ columns references, columns.map ColumnDef.name = t.columns ∧
      statements.filter (·.table? = some join.name) =
        [.createTable join.name columns t.columns references]
  /-- The text of a table begins with the names of its columns. -/
  header : ∀ t ∈ d.tables, t.columns ≠ [] → ∃ body, Csv.render t =
    .ok (String.ofList (Csv.encodeRecord (t.columns.map String.toList) ++ body))
  /-- No two rows of a table agree on its primary key. -/
  created : ∀ name columns primaryKey references,
    .createTable name columns primaryKey references ∈ statements →
      ∀ t ∈ d.tables, t.name = name → t.CreatedBy columns primaryKey
  /-- Where the script says so, there is no null. -/
  notNull : (∃ v : Vocabulary, source = v.source) → ∀ name columns primaryKey references,
    .createTable name columns primaryKey references ∈ statements →
      ∀ t ∈ d.tables, t.name = name → ∀ (j : Nat) (c : ColumnDef), columns[j]? = some c →
        c.notNull = true → ∀ row ∈ t.rows, ∃ v, row[j]? = some v ∧ v ≠ .null

/-- A table with columns is a record of their names and then its rows. -/
theorem Csv.exists_body {t : Table} (hcolumns : t.columns ≠ [])
    (hrows : ∀ row ∈ t.rows, row.length = t.columns.length) :
    ∃ body, render t =
      .ok (String.ofList (encodeRecord (t.columns.map String.toList) ++ body)) := by
  obtain ⟨body, hbody⟩ := exists_encodeRows_iff.mpr hrows
  refine ⟨body, ?_⟩
  unfold render
  rw [if_neg fun he => hcolumns (List.isEmpty_iff.mp he), hbody]
  rfl

theorem Sql.entityTable_eq_createTable {s : Schema} {e : Entity} {name : String}
    {columns : List ColumnDef} {primaryKey : List String} {references : List Reference}
    (h : entityTable s e = .createTable name columns primaryKey references) :
    columns = (s.columns e.name).map (columnDef s e) ∧ primaryKey = e.primaryKey.toList := by
  by_cases hcolumns : s.columns e.name = []
  · rw [entityTable_of_nil hcolumns] at h
    exact absurd h nofun
  · rw [entityTable_of_columns hcolumns] at h
    obtain ⟨_, rfl, rfl, _⟩ := Statement.createTable.inj h
    exact ⟨rfl, rfl⟩

/-! ## Keys that keep rows apart -/

section

variable {γ : Type} [Generator γ] {source : ValueSource γ} {s : Schema} {rows : Nat} {p : Progress}
  {e : Entity} {t : Table}

/-- **No two rows of an entity have one key.** -/
theorem nodup_keyCells (h : TableMade source s rows p e t) (he : s.entity? e.name = some e)
    (hproper : e.Proper e.name) {key : String} (hkey : e.primaryKey = some key) :
    (t.rows.map (t.cellsIn [key])).Nodup := by
  obtain ⟨j, hj, hcolumn⟩ := tableMade_key_place h he hproper hkey
  have hcells : ∀ (i : Nat) (hi : i < t.rows.length),
      t.cellsIn [key] t.rows[i] = [some (.int (i + 1))] := by
    intro i hi
    show [(t.columns.idxOf? key).bind (t.rows[i][·]?)] = _
    rw [hj, Option.bind_some,
      tableMade_key_cell h hkey (List.getElem?_eq_getElem hi) hcolumn]
  refine List.pairwise_map.mpr (List.pairwise_iff_getElem.mpr fun i k hi hk hik he => ?_)
  rw [hcells i hi, hcells k hk] at he
  have hnumber := Value.int.inj (Option.some.inj (List.singleton_inj.mp he))
  omega

/-- **No two rows of a join table pair the same keys.** -/
theorem nodup_pairCells {join : JoinTable} (h : JoinMade s rows join t)
    (hne : join.right.column ≠ join.left.column) : (t.rows.map (t.cellsIn t.columns)).Nodup := by
  obtain ⟨pairs, hpairs, hrows⟩ := h.matched
  have hcells : ∀ l r : Int,
      t.cellsIn t.columns [.int l, .int r] = [some (.int l), some (.int r)] := by
    intro l r
    rw [h.columns]
    simp [Table.cellsIn, h.columns, JoinTable.columns, List.idxOf?_cons, hne.symm]
  rw [hrows, List.map_map]
  refine hpairs.nodup.map fun x y he => ?_
  obtain ⟨hfst, hsnd⟩ := List.cons.inj ((hcells x.1 x.2).symm.trans (he.trans (hcells y.1 y.2)))
  exact Prod.ext (Value.int.inj (Option.some.inj hfst))
    (Value.int.inj (Option.some.inj (List.singleton_inj.mp hsnd)))

end

/-! ## Tables and their statements -/

namespace Plan

variable {γ : Type} [Generator γ] {source : ValueSource γ} {p : Plan} {rows : Nat} {g : γ}
  {d : Dataset} {mode : Undeclared} {text : String} {t : Table}

/-- **No other table of a dataset has the name.** -/
theorem filter_name (h : ofText mode text = .ok p)
    (hd : ((p.dataset source rows).run g).1 = .ok d) (ht : t ∈ d.tables) :
    d.tables.filter (·.name = t.name) = [t] := by
  have hnodup : (d.tables.map Table.name).Nodup := by
    rw [names_of_dataset (regular_ofText h) hd]
    exact nodup_tableNames h
  exact filter_eq_singleton hnodup ht

/-- **No cell is null if the values are those of a vocabulary.** -/
theorem null_not_mem (hd : ((p.dataset source rows).run g).1 = .ok d)
    (hsource : ∃ v : Vocabulary, source = v.source) (ht : t ∈ d.tables) {row : List Value}
    (hrow : row ∈ t.rows) : Value.null ∉ row := by
  intro hnull
  obtain ⟨v, rfl⟩ := hsource
  obtain ⟨k, hk⟩ := List.mem_iff_getElem?.mp ht
  obtain ⟨i, hi⟩ := List.mem_iff_getElem?.mp hrow
  obtain ⟨j, hj⟩ := List.mem_iff_getElem?.mp hnull
  obtain ⟨e, c, a, g', _, _, _, _, hgiven⟩ := null_of_ok hd hk hi hj
  exact v.source_ne_null _ a g' hgiven

/-- **A table of the data is one that the script creates, and keeps its primary key.** -/
theorem createdBy_of_mem (h : ofText mode text = .ok p)
    (hd : ((p.dataset source rows).run g).1 = .ok d) (ht : t ∈ d.tables)
    {columns : List ColumnDef} {primaryKey : List String} {references : List Reference}
    (hstmt : .createTable t.name columns primaryKey references ∈ p.script.statements) :
    t.CreatedBy columns primaryKey := by
  have hp := regular_ofText h
  -- the names of tables are different, so the statement is the one of its table
  have hfilter : Statement.createTable t.name columns primaryKey references ∈
      p.script.statements.filter (·.table? = some t.name) :=
    List.mem_filter.mpr ⟨hstmt, decide_eq_true rfl⟩
  obtain ⟨k, hk⟩ := List.mem_iff_getElem?.mp ht
  rcases tableAt_or_join hd hk with ⟨e, hat⟩ | ⟨join, hjoin, hmade⟩
  · -- the table of an entity
    have hmade := tableMade_of_tableAt hd hat
    obtain ⟨name, _, he⟩ := Option.bind_eq_some_iff.mp hat.entity
    have hproper := hp.proper name e he
    obtain rfl : e.name = name := hproper.named
    rw [hmade.name, hp.filter_table? h he] at hfilter
    obtain ⟨rfl, rfl⟩ := entityTable_eq_createTable (List.mem_singleton.mp hfilter).symm
    refine ⟨?_, fun key hmem => ?_, fun hne => ?_⟩
    · rw [hmade.columns, List.map_map]
      rfl
    · obtain ⟨_, _, hcolumn⟩ :=
        tableMade_key_place hmade he hproper (Option.mem_toList.mp hmem)
      exact List.mem_of_getElem? hcolumn
    · cases hkey : e.primaryKey with
      | none => exact absurd (congrArg Option.toList hkey) hne
      | some key => exact nodup_keyCells hmade he hproper hkey
  · -- a join table, whose two columns are its key
    rw [hmade.name, hp.filter_joinTable h hjoin] at hfilter
    obtain ⟨_, rfl, rfl, _⟩ := Statement.createTable.inj (List.mem_singleton.mp hfilter)
    have hne := Schema.joinTable_columns_ne (resolve_of_ofText h).1 hjoin
    refine ⟨?_, ?_, fun _ => ?_⟩
    · rw [hmade.columns]
      rfl
    · rw [hmade.columns]
      exact List.Subset.refl _
    · rw [← hmade.columns]
      exact nodup_pairCells hmade hne

/--
**The statements of the script and the data describe the same tables.**

The script has a statement for each table of the data, in their order. The columns that it defines
are the header of the table, and it has a comment instead if and only if there are none. A join
table has its two columns as its primary key. No two rows agree on a primary key, and with a
vocabulary there is no null where the script forbids it.
-/
theorem agrees_statements (h : ofText mode text = .ok p)
    (hd : ((p.dataset source rows).run g).1 = .ok d) : p.Agrees p.script.statements source d := by
  have hp := regular_ofText h
  constructor
  case tables => rw [hp.filterMap_table?, names_of_dataset hp hd]
  case entity =>
    intro name hname
    obtain ⟨e, t, _, _, _, he, hone, _, hmade⟩ := one_table hp hd hname
    obtain rfl : e.name = name := (hp.proper name e he).named
    have ht : t ∈ d.tables := List.mem_of_mem_filter (hone ▸ List.mem_singleton_self t)
    -- both sides leave the columns out for the same reason: the schema has none
    have hempty : t.columns = [] ↔ p.schema.columns e.name = [] := by
      rw [hmade.columns, List.map_eq_nil_iff]
    rw [hp.filter_table? h he, ← hmade.name]
    refine ⟨t, filter_name h hd ht, hmade.kind, fun hnil => ?_, fun hne => ?_⟩
    · rw [entityTable_of_nil (hempty.mp hnil), hmade.name]
    · refine ⟨(p.schema.columns e.name).map (columnDef p.schema e), e.primaryKey.toList, ?_, ?_⟩
      · rw [hmade.columns, List.map_map]
        rfl
      · rw [entityTable_of_columns (hempty.not.mp hne), hmade.name]
  case join =>
    intro join hjoin
    obtain ⟨t, ht, hmade⟩ := joinMade_of_joinTable hd hjoin
    rw [hp.filter_joinTable h hjoin, ← hmade.name]
    refine ⟨t, filter_name h hd ht, hmade.kind, ?_, ?_⟩
    · rw [hmade.columns]
      rfl
    · rw [hmade.name, hmade.columns]
      exact ⟨_, _, rfl, rfl⟩
  case header =>
    intro t ht hcolumns
    exact Csv.exists_body hcolumns fun row hrow => width_of_ok hd ht hrow
  case created =>
    intro name columns primaryKey references hstmt t ht hname
    subst hname
    exact createdBy_of_mem h hd ht hstmt
  case notNull =>
    intro hsource name columns primaryKey references hstmt t ht hname j c hc _ row hrow
    subst hname
    have hcolumns := (createdBy_of_mem h hd ht hstmt).columns
    -- a column that the script forbids to be null has a cell, as the header has no more columns
    have hj : j < row.length := by
      rw [width_of_ok hd ht hrow, ← hcolumns, List.length_map]
      exact (List.getElem?_eq_some_iff.mp hc).1
    refine ⟨row[j], List.getElem?_eq_getElem hj, fun he => ?_⟩
    exact null_not_mem hd hsource ht hrow (he ▸ List.getElem_mem hj)

/--
**The script and the data describe the same tables.**

For every text with a plan and every dataset of it: table by table and column by column, the
statements of the script define what the data have, and the data keep the constraints. Where the
declared types are types, these statements are what the text of the script says.
-/
theorem script_agrees (h : ofText mode text = .ok p)
    (hd : ((p.dataset source rows).run g).1 = .ok d) :
    p.Agrees p.script.statements source d ∧
    (p.HasSqlTypes → read? p.sql = some p.script.statements) :=
  ⟨agrees_statements h hd, read?_sql h⟩

/-- An entity without columns, a column that is declared for a key, one that is not, and a pair. -/
def taskText : String :=
  "entity User \x7b\n*id : number <<generated>>\n*name : varchar(40)\n\x7d\nentity Note \x7b\n\x7d\n"
    ++ "entity Task \x7b\nid : text <<generated>>\nuser_ID : number\n\x7d\n"
    ++ "User ||--o\x7b Task\nTask ||--o\x7b Task\nUser \x7do--o\x7b Task\n"

theorem script_agrees_task :
    ∃ p, ofText .synthesize taskText = .ok p ∧ p.HasSqlTypes ∧
      ∀ g ∈ [Supply.splitMix ⟨[], 0⟩, .chaCha (.ofSeed 0)],
        ∃ d, ((p.dataset Vocabulary.empty.source 2).run g).1 = .ok d ∧
          d.tables.map (fun t => (t.name, t.columns)) = [("Note", []), ("User", ["id", "name"]),
            ("Task", ["id", "user_ID", "Task_id"]), ("User_Task", ["User_id", "Task_id"])] ∧
          p.Agrees p.script.statements (Vocabulary.empty.source : ValueSource Supply) d ∧
          read? p.sql = some p.script.statements := by
  have heval : (ofText .synthesize taskText).toOption.any (fun p =>
      decide (p.HasSqlTypes ∧ ∀ g ∈ [Supply.splitMix ⟨[], 0⟩, .chaCha (.ofSeed 0)],
        ((p.dataset Vocabulary.empty.source 2).run g).1.toOption.any fun d =>
          decide (d.tables.map (fun t => (t.name, t.columns)) = [("Note", []),
            ("User", ["id", "name"]), ("Task", ["id", "user_ID", "Task_id"]),
            ("User_Task", ["User_id", "Task_id"])]))) = true := by
    decide +kernel
  obtain ⟨p, hplan, htest⟩ := exists_ok_of_any heval
  obtain ⟨htypes, hdata⟩ := of_decide_eq_true htest
  refine ⟨p, hplan, htypes, fun g hg => ?_⟩
  obtain ⟨d, hd, htest⟩ := exists_ok_of_any (hdata g hg)
  obtain ⟨hagrees, hread⟩ := script_agrees hplan hd
  exact ⟨d, hd, of_decide_eq_true htest, hagrees, hread htypes⟩

/-- A type with a comma and a word behind it. -/
def wordInType : String := "entity A \x7b\n  a : int,b\n\x7d\n"

/-- The script says that the word is a column, and the data have none. -/
theorem script_not_agrees_wordInType :
    ∃ p d, ofText .synthesize wordInType = .ok p ∧
      ((p.dataset Vocabulary.empty.source 1).run (SplitMix.mk [] 0)).1 = .ok d ∧
      d.tables.map (fun t => (t.name, t.columns)) = [("A", ["a"])] ∧
      read? p.sql =
        some [.createTable "A" [⟨"a", "INT", false, false⟩, ⟨"B", "", false, false⟩] [] []] ∧
      ∀ statements, read? p.sql = some statements →
        ¬ p.Agrees statements (Vocabulary.empty.source : ValueSource SplitMix) d := by
  have heval : (ofText .synthesize wordInType).toOption.any (fun p =>
      ((p.dataset Vocabulary.empty.source 1).run (SplitMix.mk [] 0)).1.toOption.any fun d =>
        decide (d.tables.map (fun t => (t.name, t.columns)) = [("A", ["a"])] ∧
          read? p.sql = some [.createTable "A"
            [⟨"a", "INT", false, false⟩, ⟨"B", "", false, false⟩] [] []])) = true := by
    decide +kernel
  obtain ⟨p, hplan, htest⟩ := exists_ok_of_any heval
  obtain ⟨d, hd, htest⟩ := exists_ok_of_any htest
  obtain ⟨hheaders, hread⟩ := of_decide_eq_true htest
  refine ⟨p, d, hplan, hd, hheaders, hread, fun statements hstatements hagrees => ?_⟩
  obtain ⟨t, ht, hheader⟩ : ∃ t ∈ d.tables, (t.name, t.columns) = ("A", ["a"]) := by
    rw [← List.mem_map, hheaders]
    exact List.mem_singleton_self _
  obtain ⟨hname, hcolumns⟩ := Prod.mk.inj hheader
  rw [hread] at hstatements
  -- an agreement would make the two columns of the script the header of the table
  have hcreated := hagrees.created "A" [⟨"a", "INT", false, false⟩, ⟨"B", "", false, false⟩] [] []
    (Option.some.inj hstatements ▸ List.mem_singleton_self _) t ht hname
  exact absurd (hcreated.columns.trans hcolumns) (by decide)

end Plan

end Crowfoot
