import Crowfoot.Proofs.Columns
import Crowfoot.Proofs.Firsts
import Crowfoot.Proofs.Generation
import Crowfoot.Proofs.TableNames

/-!
# The tables of a dataset

If there is a dataset for a text, each entity has one table in it, and all that is known
of that table is in `one_table`: it was made with the columns of its entity, with keys for
those names only that stand before its own in the order. What a key cell and the cell of a
foreign key hold follows from this without another look at the run.
-/

namespace Crowfoot

open Fill Generation

variable {γ : Type} [Generator γ]

/-! ## The tables of the entities -/

section

variable {source : ValueSource γ} {s : Schema} {rows : Nat} {names : List String} {q : Progress}

theorem filled_names (h : Filled source s rows names q)
    (hproper : ∀ name e, s.entity? name = some e → e.Proper name) :
    q.tables.map Table.name = names := by
  refine List.ext_getElem? fun i => ?_
  rw [List.getElem?_map]
  cases hi : names[i]? with
  | none =>
    rw [List.getElem?_eq_none_iff] at hi
    rw [List.getElem?_eq_none (h.length ▸ hi)]
    rfl
  | some name =>
    obtain ⟨e, t, he, ht, hmade⟩ := h.table i name hi
    rw [ht]
    show some t.name = some name
    rw [hmade.name, (hproper name e he).named]

end

/-! ## Cells -/

/-- The cell of a column that is the primary key counts the rows. -/
theorem made_key {source : ValueSource γ} {e : Entity} {rows : Nat} {c : Column}
    {row : RowContext} {v : Value} (h : Made source e rows c row v)
    (hkey : e.isKey c.name = true) : v = .int (row.rowIndex + 1) := by
  cases h with
  | key _ => rfl
  | own h _ _ _ _ => exact absurd (hkey.symm.trans h) (by simp)
  | picked h _ _ _ _ => exact absurd (hkey.symm.trans h) (by simp)
  | sourced _ h _ _ _ => exact absurd (hkey.symm.trans h) (by simp)
  | fallback _ h _ _ _ => exact absurd (hkey.symm.trans h) (by simp)
  | null h _ _ => exact absurd (hkey.symm.trans h) (by simp)

/--
The cell of a column that carries a foreign key is the key of some row, and unless the
reference is of an entity to itself there were keys of the parent to pick from.
-/
theorem made_foreignKey {source : ValueSource γ} {e : Entity} {rows : Nat} {c : Column}
    {row : RowContext} {v : Value} {k : ForeignKey} (h : Made source e rows c row v)
    (hkey : e.isKey c.name = false) (hk : c.foreignKey = some k)
    (hpools : FullPools rows row.keys) :
    k.parentKey.isSome ∧ (k.parent = e.name ∨ row.keys.of k.parent ≠ []) ∧
      ∃ n ∈ keyRange rows, v = .int n := by
  cases h with
  | key h => exact absurd (h.symm.trans hkey) (by simp)
  | @own k' n _ hk' hp hself hn =>
    obtain rfl := Option.some.inj (hk.symm.trans hk')
    exact ⟨hp, Or.inl hself, n, hn, rfl⟩
  | @picked k' n _ hk' hp _ hn =>
    obtain rfl := Option.some.inj (hk.symm.trans hk')
    have hne : row.keys.of k.parent ≠ [] := List.ne_nil_of_mem hn
    -- some key of the parent is in the pool, so all are
    have hfull := (hpools k.parent).resolve_left hne
    exact ⟨hp, Or.inr hne, n, hfull ▸ hn, rfl⟩
  | sourced _ _ hk' _ _ => exact absurd (hk.symm.trans hk') (by simp)
  | fallback _ _ hk' _ _ => exact absurd (hk.symm.trans hk') (by simp)
  | null _ hk' _ => exact absurd (hk.symm.trans hk') (by simp)

section

variable {source : ValueSource γ} {s : Schema} {rows : Nat} {p : Progress} {e : Entity} {t : Table}

/-- A cell of a made table was made for its column. -/
theorem tableMade_cell (h : TableMade source s rows p e t) {i j : Nat} {row : List Value}
    {c : Column} (hrow : t.rows[i]? = some row) (hc : (s.columns e.name)[j]? = some c) :
    ∃ v, row[j]? = some v ∧
      Made source e rows c { rowStart s p e i with values := row.take j } v := by
  obtain ⟨v, hv, hmade⟩ := (h.row i row hrow).getElem? j c hc
  have hj : (rowStart s p e i).values.length + j = j := Nat.zero_add j
  rw [hj] at hv hmade
  exact ⟨v, hv, hmade⟩

theorem tableMade_key_cell (h : TableMade source s rows p e t) {key : String}
    (hkey : e.primaryKey = some key) {i j : Nat} {row : List Value}
    (hrow : t.rows[i]? = some row) (hj : t.columns[j]? = some key) :
    row[j]? = some (.int (i + 1)) := by
  rw [h.columns, List.getElem?_map] at hj
  obtain ⟨c, hc, hname⟩ := Option.map_eq_some_iff.mp hj
  obtain ⟨v, hv, hmade⟩ := tableMade_cell h hrow hc
  rw [hv, made_key hmade (decide_eq_true (by rw [hkey, hname]))]
  rfl

/-- The key is one of the columns. -/
theorem tableMade_key_place (h : TableMade source s rows p e t) (he : s.entity? e.name = some e)
    (hproper : e.Proper e.name) {key : String} (hkey : e.primaryKey = some key) :
    ∃ j : Nat, t.columns.idxOf? key = some j ∧ t.columns[j]? = some key := by
  obtain ⟨a, ha, hname⟩ := hproper.key_declared key hkey
  have hmem : key ∈ t.columns := by
    rw [h.columns, ← hname]
    exact List.mem_map_of_mem ((Schema.mem_columns_iff he).mpr (Or.inl ⟨a, ha, rfl⟩))
  obtain ⟨j, hj⟩ := Option.isSome_iff_exists.mp (List.isSome_idxOf?.mpr hmem)
  obtain ⟨hlt, hget, _⟩ := List.idxOf?_eq_some_iff.mp hj
  exact ⟨j, hj, List.getElem?_eq_some_iff.mpr ⟨hlt, hget⟩⟩

/-- **The key column counts the rows.** -/
theorem tableMade_columnValues (h : TableMade source s rows p e t) (he : s.entity? e.name = some e)
    (hproper : e.Proper e.name) {key : String} (hkey : e.primaryKey = some key) :
    t.columnValues key = (keyRange rows).map .int := by
  obtain ⟨j, hj, hcolumn⟩ := tableMade_key_place h he hproper hkey
  -- row by row, the cell in that column is there and is the number of the row
  have hcells : t.rows.map (·[j]?) = ((keyRange rows).map Value.int).map some := by
    refine List.ext_getElem? fun i => ?_
    rw [List.getElem?_map, List.getElem?_map, List.getElem?_map]
    cases hrow : t.rows[i]? with
    | none =>
      rw [List.getElem?_eq_none_iff, h.length] at hrow
      rw [List.getElem?_eq_none (by rw [length_keyRange]; exact hrow)]
      rfl
    | some row =>
      have hi : i < rows := h.length ▸ (List.getElem?_eq_some_iff.mp hrow).1
      show some row[j]? = _
      rw [tableMade_key_cell h hkey hrow hcolumn]
      simp [keyRange, hi]
  unfold Table.columnValues
  rw [hj]
  show t.rows.filterMap (·[j]?) = _
  calc t.rows.filterMap (·[j]?) = (t.rows.map (·[j]?)).filterMap id := by
        rw [List.filterMap_map]
        rfl
    _ = (keyRange rows).map .int := by
        rw [hcells, List.filterMap_map]
        simp

end

/-! ## The dataset of a text -/

/-- The tables of an entity of that very name. -/
def Dataset.entityTables (d : Dataset) (name : String) : List Table :=
  d.tables.filter fun t => t.kind = .entity ∧ t.name = name

namespace Plan

variable {source : ValueSource γ} {p : Plan} {rows : Nat} {g : γ} {d : Dataset}

/-- **A dataset has the tables of its plan, in their order.** -/
theorem names_of_dataset (hp : p.Regular) (hd : ((p.dataset source rows).run g).1 = .ok d) :
    d.tables.map Table.name = p.tableNames := by
  obtain ⟨q, joins, hq, hjoins, htables⟩ := dataset_ok hd
  have hsame : List.Forall₂ (fun t filled => t.name = filled.name) p.schema.joinTables joins :=
    hjoins.imp fun _ _ hmade => hmade.name.symm
  have hnames : p.schema.joinTables.map JoinTable.name = joins.map Table.name := by
    rw [← List.forall₂_eq_eq_eq, List.forall₂_map_left_iff, List.forall₂_map_right_iff]
    exact hsame
  rw [htables, List.map_append, filled_names hq hp.proper, tableNames, hnames]

/-- A table of a join is no table of an entity. -/
theorem entityTables_eq {s : Schema} {joins : List JoinTable} {names : List String}
    {q : Progress} {tables : List Table} (hq : Filled source s rows names q)
    (hjoins : List.Forall₂ (JoinMade s rows) joins tables) (name : String) :
    (Dataset.mk (q.tables ++ tables)).entityTables name = q.tables.filter (·.name = name) := by
  have hnone : tables.filter (fun t => t.kind = .entity ∧ t.name = name) = [] := by
    rw [List.filter_eq_nil_iff]
    intro t ht
    obtain ⟨_, _, hmade⟩ := joinMade_of_mem hjoins ht
    simp [hmade.kind]
  -- and all tables in front are those of entities
  have hsame : q.tables.filter (fun t => t.kind = .entity ∧ t.name = name)
      = q.tables.filter (·.name = name) := by
    refine List.filter_congr fun t ht => ?_
    obtain ⟨_, _, _, _, _, hmade⟩ := filled_mem hq ht
    simp [hmade.kind]
  unfold Dataset.entityTables
  rw [List.filter_append, hnone, hsame, List.append_nil]

/-- **Every entity has exactly one table, made with keys of the names before its own.** -/
theorem one_table (hp : p.Regular) (hd : ((p.dataset source rows).run g).1 = .ok d)
    {name : String} (hname : name ∈ p.schema.entities) :
    ∃ e t earlier before after, p.schema.entity? name = some e ∧ d.entityTables name = [t] ∧
      p.order.entities = before ++ name :: after ∧
      TableMade source p.schema rows ⟨earlier, poolsOf p.schema rows before⟩ e t := by
  obtain ⟨q, joins, hq, hjoins, htables⟩ := dataset_ok hd
  obtain rfl : d = ⟨q.tables ++ joins⟩ := by rw [← htables]
  have hnames := filled_names hq hp.proper
  -- the order has every entity once, and the filling one table for each name in it
  have hmem : name ∈ q.tables.map Table.name := by
    rw [hnames, hp.order_eq]
    exact (DependencyOrder.mem_ofSchema_iff_of_linked hp.linked name).mpr hname
  obtain ⟨t, ht, rfl⟩ := List.mem_map.mp hmem
  obtain ⟨i, name, e, hi, he, hmade⟩ := filled_mem hq ht
  obtain rfl : t.name = name := by rw [hmade.name, (hp.proper name e he).named]
  obtain ⟨hlt, hget⟩ := List.getElem?_eq_some_iff.mp hi
  refine ⟨e, t, _, _, p.order.entities.drop (i + 1), he, ?_, ?_, hmade⟩
  · rw [entityTables_eq hq hjoins]
    refine filter_eq_singleton ?_ ht
    rw [hnames, hp.order_eq]
    exact DependencyOrder.ofSchema_nodup p.schema
  · rw [← hget, ← List.drop_eq_getElem_cons, List.take_append_drop]

/-- Every join table has a table. -/
theorem joinMade_of_joinTable (hd : ((p.dataset source rows).run g).1 = .ok d) {join : JoinTable}
    (hjoin : join ∈ p.schema.joinTables) : ∃ t ∈ d.tables, JoinMade p.schema rows join t := by
  obtain ⟨q, joins, _, hjoins, htables⟩ := dataset_ok hd
  obtain ⟨i, hi, rfl⟩ := List.mem_iff_getElem.mp hjoin
  have hi' : i < joins.length := hjoins.length_eq ▸ hi
  refine ⟨joins[i], ?_, hjoins.get hi hi'⟩
  rw [htables]
  exact List.mem_append_right _ (List.getElem_mem hi')

end Plan

end Crowfoot
