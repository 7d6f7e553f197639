import Crowfoot.Proofs.Questions
import Crowfoot.Proofs.Tables
import Crowfoot.Random.SplitMix

/-!
# What a source sees

The context in which a source is asked for a cell was made while the tables were being filled. In
the dataset it can be seen at the place of the cell: the cells before it in its row, the tables
before its table, and the keys of the entities before its entity. Nothing that stands there is
changed later.

So the values of a source can be checked against the dataset alone, and a note of the questions
shows that it is asked for no other cells.
-/

namespace Crowfoot

open Fill Generation

variable {γ : Type} [Generator γ] {source : ValueSource γ} {p : Plan} {rows : Nat} {g : γ}
  {d : Dataset}

/-- What a source gives for an attribute with some generator, or a value by type if that is none. -/
inductive Answered (source : ValueSource γ) (row : RowContext) (a : Attribute) : Value → Prop
  | given {v : Value} (g : γ) (h : ((source row a).run g).1 = some v) : Answered source row a v
  | byType (g : γ) (h : ((source row a).run g).1 = none) :
      Answered source row a (a.fallback.run ((source row a).run g).2).1

/-- The column is neither the primary key of the entity nor a foreign key. -/
structure Column.Plain (c : Column) (e : Entity) : Prop where
  no_key : e.isKey c.name = false
  no_foreignKey : c.foreignKey = none

/-! ## Cells -/

theorem Attribute.fallback_ne_null (a : Attribute) :
    (a.fallback (γ := γ)).Ensures fun v => v ≠ .null := by
  unfold fallback
  split <;> exact Draw.Ensures.bind (P := fun _ => True) (fun _ => trivial)
    fun _ _ => Draw.ensures_pure nofun

section

variable {e : Entity} {c : Column} {row : RowContext} {v : Value}

/-- The cell of a plain column is what the source has answered. -/
theorem made_plain (h : Made source e rows c row v) (hc : c.Plain e) {a : Attribute}
    (ha : c.attr = some a) : Answered source row a v := by
  cases h with
  | key h => exact absurd (h.symm.trans hc.no_key) nofun
  | own _ hk _ _ _ => exact absurd (hk.symm.trans hc.no_foreignKey) nofun
  | picked _ hk _ _ _ => exact absurd (hk.symm.trans hc.no_foreignKey) nofun
  | sourced g _ _ ha' hv =>
    obtain rfl := Option.some.inj (ha.symm.trans ha')
    exact .given g hv
  | fallback g _ _ ha' hv =>
    obtain rfl := Option.some.inj (ha.symm.trans ha')
    exact .byType g hv
  | null _ _ ha' => exact absurd (ha.symm.trans ha') nofun

/-- Only the source makes a cell null. -/
theorem made_null (h : Made source e rows c row v) (hv : v = .null)
    (hattr : c.foreignKey = none → ∃ a, c.attr = some a) :
    c.Plain e ∧ ∃ a g, c.attr = some a ∧ ((source row a).run g).1 = some .null := by
  cases h with
  | key _ => exact absurd hv nofun
  | own _ _ _ _ _ => exact absurd hv nofun
  | picked _ _ _ _ _ => exact absurd hv nofun
  | sourced g hkey hk ha hg => exact ⟨⟨hkey, hk⟩, _, g, ha, hv ▸ hg⟩
  | @fallback a g _ _ _ _ => exact absurd hv (a.fallback_ne_null _)
  | null _ hk ha =>
    obtain ⟨a, ha'⟩ := hattr hk
    exact absurd (ha.symm.trans ha') nofun

end

theorem Column.mem_questions {c : Column} {e : Entity} {row : RowContext} {q : Question} :
    q ∈ c.questions e row ↔ c.Plain e ∧ ∃ a, c.attr = some a ∧ q = ⟨row, a⟩ := by
  unfold questions
  split
  · -- a key is not asked for
    rename_i hkey
    refine ⟨fun h => absurd h (by simp), fun h => ?_⟩
    exact absurd (hkey.symm.trans h.1.no_key) nofun
  · rename_i hkey
    replace hkey : e.isKey c.name = false := by simpa using hkey
    split
    · -- neither a key nor a reference: the attribute is asked for
      rename_i a hk ha
      rw [List.mem_singleton, ha]
      constructor
      · intro h
        exact ⟨⟨hkey, hk⟩, a, rfl, h⟩
      · intro h
        obtain ⟨_, a', ha', h⟩ := h
        rw [h, Option.some.inj ha']
    · rename_i hnot
      refine ⟨fun h => absurd h (by simp), fun h => ?_⟩
      obtain ⟨hc, a, ha, _⟩ := h
      exact absurd ha (hnot a hc.no_foreignKey)

theorem Fill.mem_rowQuestions {e : Entity} {row : RowContext} {columns : List Column}
    {values : List Value} {q : Question} :
    q ∈ rowQuestions e row columns 0 values ↔ ∃ (j : Nat) (c : Column), columns[j]? = some c ∧
      q ∈ c.questions e { row with values := values.take j } := by
  unfold rowQuestions
  rw [List.mem_flatMap, Prod.exists, exists_comm]
  simp only [List.mem_zipIdx_iff_getElem?]

theorem Fill.mem_tableQuestions {s : Schema} {p : Progress} {e : Entity} {t : Table}
    {q : Question} :
    q ∈ tableQuestions s p e t ↔ ∃ (i : Nat) (r : List Value), t.rows[i]? = some r ∧
      q ∈ rowQuestions e (rowStart s p e i) (s.columns e.name) 0 r := by
  unfold tableQuestions
  rw [List.mem_flatMap, Prod.exists, exists_comm]
  simp only [List.mem_zipIdx_iff_getElem?]

theorem Generation.mem_questionsAt {s : Schema} {names : List String} {tables : List Table}
    {k : Nat} {q : Question} :
    q ∈ questionsAt s rows names tables k ↔ ∃ e t, names[k]?.bind s.entity? = some e ∧
      tables[k]? = some t ∧
      q ∈ tableQuestions s ⟨tables.take k, poolsOf s rows (names.take k)⟩ e t := by
  unfold questionsAt
  split
  · rename_i e t he ht
    simp [he, ht]
  · rename_i hnot
    refine ⟨fun h => absurd h (by simp), fun h => ?_⟩
    obtain ⟨e, t, he, ht, _⟩ := h
    exact absurd ht (hnot e t he)

/-! ## Places -/

namespace Plan

/-- The entity at a place of the order, and the table at that place of the dataset. -/
structure TableAt (p : Plan) (d : Dataset) (k : Nat) (e : Entity) (t : Table) : Prop where
  entity : p.order.entities[k]?.bind p.schema.entity? = some e
  table : d.tables[k]? = some t

/--
What stands before the cell in column `j` of row `i` in the table `t` at place `k`: the cells
before it in the row, the tables before it, and the keys of the entities before it that have one.
-/
def contextAt (p : Plan) (rows : Nat) (d : Dataset) (k : Nat) (t : Table) (i : Nat)
    (row : List Value) (j : Nat) : RowContext where
  entity := t.name
  rowIndex := i
  columns := t.columns
  values := row.take j
  tables := d.tables.take k
  keys := poolsOf p.schema rows (p.order.entities.take k)

variable {k i j : Nat} {e : Entity} {t : Table} {row : List Value}

theorem tableMade_of_tableAt (hd : ((p.dataset source rows).run g).1 = .ok d)
    (h : p.TableAt d k e t) : TableMade source p.schema rows
      ⟨d.tables.take k, poolsOf p.schema rows (p.order.entities.take k)⟩ e t := by
  obtain ⟨q, joins, hq, _, htables⟩ := dataset_ok hd
  obtain ⟨name, hname, he⟩ := Option.bind_eq_some_iff.mp h.entity
  obtain ⟨e', t', he', ht', hmade⟩ := hq.table k name hname
  have hlt : k < q.tables.length := (List.getElem?_eq_some_iff.mp ht').1
  have ht := h.table
  rw [htables, List.getElem?_append_left hlt] at ht
  obtain rfl := Option.some.inj (he.symm.trans he')
  obtain rfl := Option.some.inj (ht.symm.trans ht')
  rw [htables, List.take_append_of_le_length (Nat.le_of_lt hlt)]
  exact hmade

theorem contextAt_eq (h : TableMade source p.schema rows
      ⟨d.tables.take k, poolsOf p.schema rows (p.order.entities.take k)⟩ e t) :
    p.contextAt rows d k t i row j = { rowStart p.schema
      ⟨d.tables.take k, poolsOf p.schema rows (p.order.entities.take k)⟩ e i with
        values := row.take j } := by
  unfold contextAt rowStart
  rw [h.name, h.columns]

/-- A table of a dataset stands at the place of an entity, or behind all entities. -/
theorem tableAt_or_join (hd : ((p.dataset source rows).run g).1 = .ok d)
    (ht : d.tables[k]? = some t) :
    (∃ e, p.TableAt d k e t) ∨ ∃ join ∈ p.schema.joinTables, JoinMade p.schema rows join t := by
  obtain ⟨q, joins, hq, hjoins, htables⟩ := dataset_ok hd
  by_cases hlt : k < q.tables.length
  · left
    have hname := List.getElem?_eq_getElem (hq.length ▸ hlt)
    obtain ⟨e, _, he, _⟩ := hq.table k _ hname
    exact ⟨e, by rw [hname]; exact he, ht⟩
  · right
    rw [htables, List.getElem?_append_right (Nat.le_of_not_lt hlt)] at ht
    exact joinMade_of_mem hjoins (List.mem_of_getElem? ht)

theorem mem_questions_iff (hd : ((p.dataset source rows).run g).1 = .ok d) {q : Question} :
    q ∈ p.questions rows d ↔ ∃ k e t i row j c a, p.TableAt d k e t ∧ t.rows[i]? = some row ∧
      (p.schema.columns e.name)[j]? = some c ∧ c.Plain e ∧ c.attr = some a ∧
        q = ⟨p.contextAt rows d k t i row j, a⟩ := by
  unfold questions
  rw [List.mem_flatMap]
  constructor
  · intro h
    -- a question is found table by table, row by row and cell by cell
    obtain ⟨k, _, h⟩ := h
    obtain ⟨e, t, he, ht, h⟩ := mem_questionsAt.mp h
    obtain ⟨i, row, hrow, h⟩ := mem_tableQuestions.mp h
    obtain ⟨j, c, hc, h⟩ := mem_rowQuestions.mp h
    obtain ⟨hplain, a, ha, rfl⟩ := Column.mem_questions.mp h
    have hat : p.TableAt d k e t := ⟨he, ht⟩
    refine ⟨k, e, t, i, row, j, c, a, hat, hrow, hc, hplain, ha, ?_⟩
    rw [contextAt_eq (tableMade_of_tableAt hd hat)]
  · intro h
    obtain ⟨k, e, t, i, row, j, c, a, hat, hrow, hc, hplain, ha, rfl⟩ := h
    rw [contextAt_eq (tableMade_of_tableAt hd hat)]
    obtain ⟨name, hname, _⟩ := Option.bind_eq_some_iff.mp hat.entity
    have hk : k < p.order.entities.length := (List.getElem?_eq_some_iff.mp hname).1
    refine ⟨k, List.mem_range.mpr hk, mem_questionsAt.mpr ⟨e, t, hat.entity, hat.table, ?_⟩⟩
    refine mem_tableQuestions.mpr ⟨i, row, hrow, mem_rowQuestions.mpr ⟨j, c, hc, ?_⟩⟩
    exact Column.mem_questions.mpr ⟨hplain, a, ha, rfl⟩

/-! ## All cells -/

/-- What can be seen in a dataset of the way its cells were made. -/
structure Traceable (p : Plan) (source : ValueSource γ) (rows : Nat) (g : γ) (d : Dataset) :
    Prop where
  /-- The tables of the entities come first, in the order of the entities. -/
  entities : List.Forall₂ (fun name t => ∃ e, p.schema.entity? name = some e ∧ t.name = e.name ∧
    t.kind = .entity ∧ t.columns = p.schema.columnNames e.name)
    p.order.entities (d.tables.take p.order.entities.length)
  /-- The join tables follow, in the order of the schema. -/
  joins : List.Forall₂ (fun join t => t.name = join.name ∧ t.kind = .join ∧
    t.columns = join.columns) p.schema.joinTables (d.tables.drop p.order.entities.length)
  /-- Every row has a cell for each column. -/
  width : ∀ t ∈ d.tables, ∀ row ∈ t.rows, row.length = t.columns.length
  /-- A cell of a plain column is the answer of the source in the context of that place. -/
  answered : ∀ k e t i row j c, p.TableAt d k e t → t.rows[i]? = some row →
    (p.schema.columns e.name)[j]? = some c → c.Plain e →
    ∃ a v, c.attr = some a ∧ row[j]? = some v ∧
      Answered source (p.contextAt rows d k t i row j) a v
  /-- A source that notes its questions gives the same, and has noted these questions. -/
  asked : ∀ before, (p.dataset source.noting rows).run ⟨g, before⟩ =
    (.ok d, ⟨((p.dataset source rows).run g).2, before ++ p.questions rows d⟩)
  /-- They are one for each cell of a plain column, in the context of its place. -/
  questions : ∀ q, q ∈ p.questions rows d ↔ ∃ k e t i row j c a, p.TableAt d k e t ∧
    t.rows[i]? = some row ∧ (p.schema.columns e.name)[j]? = some c ∧ c.Plain e ∧
    c.attr = some a ∧ q = ⟨p.contextAt rows d k t i row j, a⟩
  /-- A cell is null only where the source gives null. -/
  null : ∀ k t i row j, d.tables[k]? = some t → t.rows[i]? = some row → row[j]? = some .null →
    ∃ e c a g, p.TableAt d k e t ∧ (p.schema.columns e.name)[j]? = some c ∧ c.Plain e ∧
      c.attr = some a ∧ ((source (p.contextAt rows d k t i row j) a).run g).1 = some .null

theorem width_of_ok (hd : ((p.dataset source rows).run g).1 = .ok d) {t : Table}
    (ht : t ∈ d.tables) {row : List Value} (hrow : row ∈ t.rows) :
    row.length = t.columns.length := by
  obtain ⟨k, hk⟩ := List.mem_iff_getElem?.mp ht
  obtain ⟨i, hi⟩ := List.mem_iff_getElem?.mp hrow
  rcases tableAt_or_join hd hk with ⟨e, hat⟩ | ⟨join, _, hjoin⟩
  · have hmade := tableMade_of_tableAt hd hat
    obtain ⟨new, hnew, hlength⟩ := (hmade.row i row hi).append
    obtain rfl : row = new := hnew
    rw [hlength, hmade.columns, List.length_map]
  · obtain ⟨pairs, _, hrows⟩ := hjoin.matched
    rw [hrows] at hrow
    obtain ⟨pair, _, rfl⟩ := List.mem_map.mp hrow
    rw [hjoin.columns]
    rfl

/-- The source answers for a plain cell, and is shown what stands before it in the dataset. -/
theorem answered_of_ok (hd : ((p.dataset source rows).run g).1 = .ok d)
    (hat : p.TableAt d k e t) (hrow : t.rows[i]? = some row)
    (hc : (p.schema.columns e.name)[j]? = some c) (hplain : c.Plain e) :
    ∃ a v, c.attr = some a ∧ row[j]? = some v ∧
      Answered source (p.contextAt rows d k t i row j) a v := by
  have hmade := tableMade_of_tableAt hd hat
  obtain ⟨a, ha⟩ := Schema.exists_attr (List.mem_of_getElem? hc) hplain.no_foreignKey
  obtain ⟨v, hv, hcell⟩ := tableMade_cell hmade hrow hc
  -- the context of the filling is the one that the finished dataset shows
  rw [← contextAt_eq hmade] at hcell
  exact ⟨a, v, ha, hv, made_plain hcell hplain ha⟩

theorem null_of_ok (hd : ((p.dataset source rows).run g).1 = .ok d) (ht : d.tables[k]? = some t)
    (hrow : t.rows[i]? = some row) (hnull : row[j]? = some .null) :
    ∃ e c a g, p.TableAt d k e t ∧ (p.schema.columns e.name)[j]? = some c ∧ c.Plain e ∧
      c.attr = some a ∧ ((source (p.contextAt rows d k t i row j) a).run g).1 = some .null := by
  rcases tableAt_or_join hd ht with ⟨e, hat⟩ | ⟨join, _, hjoin⟩
  · have hmade := tableMade_of_tableAt hd hat
    have hwidth := width_of_ok hd (List.mem_of_getElem? ht) (List.mem_of_getElem? hrow)
    rw [hmade.columns, List.length_map] at hwidth
    have hj : j < (p.schema.columns e.name).length := by
      rw [← hwidth]
      exact (List.getElem?_eq_some_iff.mp hnull).1
    have hc := List.getElem?_eq_getElem hj
    obtain ⟨v, hv, hcell⟩ := tableMade_cell hmade hrow hc
    obtain ⟨hplain, a, g, ha, hg⟩ := made_null hcell (Option.some.inj (hv.symm.trans hnull))
      fun hk => Schema.exists_attr (List.getElem_mem hj) hk
    rw [← contextAt_eq hmade] at hg
    exact ⟨e, _, a, g, hat, hc, hplain, ha, hg⟩
  · -- both cells of a pair are keys
    obtain ⟨pairs, _, hrows⟩ := hjoin.matched
    have hmem := List.mem_of_getElem? hrow
    rw [hrows] at hmem
    obtain ⟨pair, _, rfl⟩ := List.mem_map.mp hmem
    exact absurd (List.mem_of_getElem? hnull) (by simp)

/--
**A source sees the dataset as it is before each cell, and is asked for no other cells.**

Of any plan: a dataset has the tables of the entities in their order and then the join tables, with
a cell for each column in all their rows. The cell of a column that is no key is what the source
gives for the attribute, or the value by type if it gives none, and what it was shown can be seen
in the dataset: the cells before in the row, the tables before, and the keys of the entities
before. It was asked about these cells, once each and in their order, and about nothing else. There
is no null in the dataset but those it gave.
-/
theorem dataset_traceable (hd : ((p.dataset source rows).run g).1 = .ok d) :
    p.Traceable source rows g d := by
  obtain ⟨q, joins, hq, hjoins, htables⟩ := dataset_ok hd
  constructor
  case entities =>
    -- the first tables are those of the entities, and the filling keeps them in their order
    rw [htables, List.take_left' hq.length, List.forall₂_iff_get]
    refine ⟨hq.length.symm, fun k hk hk' => ?_⟩
    obtain ⟨e, t, he, ht, hmade⟩ := hq.table k _ (List.getElem?_eq_getElem hk)
    obtain rfl : q.tables[k] = t := Option.some.inj ((List.getElem?_eq_getElem hk').symm.trans ht)
    exact ⟨e, he, hmade.name, hmade.kind, hmade.columns⟩
  case joins =>
    rw [htables, List.drop_left' hq.length]
    exact hjoins.imp fun join t hmade => ⟨hmade.name, hmade.kind, hmade.columns⟩
  case width => exact fun t ht row hrow => width_of_ok hd ht hrow
  case answered =>
    exact fun k e t i row j c hat hrow hc hplain => answered_of_ok hd hat hrow hc hplain
  case asked => exact dataset_asks hd
  case questions => exact fun q => mem_questions_iff hd
  case null => exact fun k t i row j ht hrow hnull => null_of_ok hd ht hrow hnull

/-- Two entities of which the second refers to the first and has a column that may be null. -/
def noteText : String :=
  "entity A \x7b\nid : number <<generated>>\nname : text\n\x7d\n"
    ++ "entity B \x7b\nkind : text\nA_id : number\nnote : text\n\x7d\nA ||--o\x7b B\n"

/-- A source that knows no names, and gives null for all else where tables come before. -/
def noteSource {γ : Type} : ValueSource γ := fun row a =>
  return if a.name = "name" then none
    else if row.tables.isEmpty then some (.int 1) else some .null

theorem dataset_traceable_note :
    ∃ p d, ofText .synthesize noteText = .ok p ∧
      ((p.dataset noteSource 2).run (SplitMix.mk [] 3)).1 = .ok d ∧
      (d.tables.map fun t => t.rows.map List.length) = [[2, 2], [3, 3]] ∧
      (p.questions 2 d).map (fun q => (q.row.entity, q.attr.name, q.row.values.length)) =
        [("A", "name", 1), ("A", "name", 1), ("B", "kind", 0), ("B", "note", 2), ("B", "kind", 0),
          ("B", "note", 2)] ∧
      p.Traceable noteSource 2 (SplitMix.mk [] 3) d := by
  have heval : (ofText .synthesize noteText).toOption.any (fun p =>
      ((p.dataset noteSource 2).run (SplitMix.mk [] 3)).1.toOption.any fun d =>
        decide ((d.tables.map fun t => t.rows.map List.length) = [[2, 2], [3, 3]] ∧
          (p.questions 2 d).map (fun q => (q.row.entity, q.attr.name, q.row.values.length)) =
            [("A", "name", 1), ("A", "name", 1), ("B", "kind", 0), ("B", "note", 2),
              ("B", "kind", 0), ("B", "note", 2)])) = true := by
    decide +kernel
  obtain ⟨p, hplan, htest⟩ := exists_ok_of_any heval
  obtain ⟨d, hd, htest⟩ := exists_ok_of_any htest
  obtain ⟨hwidth, hquestions⟩ := of_decide_eq_true htest
  exact ⟨p, d, hplan, hd, hwidth, hquestions, dataset_traceable hd⟩

end Plan

end Crowfoot
