import Crowfoot.Dataset.Filling
import Crowfoot.Proofs.Draws
import Mathlib.Data.List.Forall2

/-!
# What a filled table holds

`Made` says what a cell may hold and `Refused` when a column cannot be filled; the two
exclude each other, and neither asks the generator. A row is made column by column, each
cell in the context of the cells before it.
-/

namespace Crowfoot

theorem mem_keyRange {rows : Nat} {n : Int} : n ∈ keyRange rows ↔ 1 ≤ n ∧ n ≤ rows := by
  unfold keyRange
  rw [List.mem_map]
  constructor
  · intro h
    obtain ⟨i, hi, rfl⟩ := h
    have := List.mem_range.mp hi
    omega
  · intro h
    exact ⟨(n - 1).toNat, List.mem_range.mpr (by omega), by omega⟩

namespace Fill

variable {γ α β : Type}

/-! ## Results and errors -/

/-- A result satisfies `P`, an error satisfies `E`. -/
def Outcome (P : α → Prop) (E : GenerationError → Prop) : Except GenerationError α → Prop
  | .ok a => P a
  | .error e => E e

/-- Whatever the generator gives, a result satisfies `P` and an error satisfies `E`. -/
def Ensures (x : Fill γ α) (P : α → Prop) (E : GenerationError → Prop) : Prop :=
  Draw.Ensures x.run (Outcome P E)

theorem ensures_pure {a : α} {P : α → Prop} {E : GenerationError → Prop} (h : P a) :
    Ensures (pure a : Fill γ α) P E := fun _ => h

theorem ensures_throw {e : GenerationError} {P : α → Prop} {E : GenerationError → Prop}
    (h : E e) : Ensures (throw e : Fill γ α) P E := fun _ => h

theorem Ensures.mono {x : Fill γ α} {P Q : α → Prop} {E F : GenerationError → Prop}
    (h : Ensures x P E) (hp : ∀ a, P a → Q a) (he : ∀ e, E e → F e) : Ensures x Q F := by
  refine Draw.Ensures.mono h fun r hr => ?_
  cases r with
  | ok a => exact hp a hr
  | error e => exact he e hr

theorem Ensures.of_ok {x : Fill γ α} {P : α → Prop} {E : GenerationError → Prop}
    (h : Ensures x P E) {g : γ} {a : α} (hx : (x.run.run g).1 = .ok a) : P a := by
  have hg := h g
  rw [hx] at hg
  exact hg

theorem Ensures.of_error {x : Fill γ α} {P : α → Prop} {E : GenerationError → Prop}
    (h : Ensures x P E) {g : γ} {e : GenerationError} (hx : (x.run.run g).1 = .error e) : E e := by
  have hg := h g
  rw [hx] at hg
  exact hg

theorem Ensures.bind {x : Fill γ α} {f : α → Fill γ β} {P : α → Prop} {Q : β → Prop}
    {E : GenerationError → Prop} (hx : Ensures x P E) (hf : ∀ a, P a → Ensures (f a) Q E) :
    Ensures (x >>= f) Q E := by
  rw [Ensures, ExceptT.run_bind]
  refine Draw.Ensures.bind hx fun r hr => ?_
  cases r with
  | ok a => exact hf a hr
  | error e => exact Draw.ensures_pure hr

theorem ensures_liftExcept {x : Except GenerationError α} {P : α → Prop}
    {E : GenerationError → Prop} (h : Outcome P E x) : Ensures (γ := γ) (liftM x) P E := fun _ => h

theorem ensures_draw {d : Draw γ α} {P : α → Prop} {E : GenerationError → Prop}
    (h : d.Ensures P) : Ensures (draw d) P E :=
  Draw.Ensures.bind h fun _ ha => Draw.ensures_pure ha

/-- Drawing first goes on with what was drawn and the generator after it. -/
theorem run_draw_bind (d : Draw γ α) (f : α → Fill γ β) (g : γ) :
    (draw d >>= f).run.run g = (f (d.run g).1).run.run (d.run g).2 := rfl

theorem run_bind_ok {x : Fill γ α} {f : α → Fill γ β} {g : γ} {a : α}
    (h : (x.run.run g).1 = .ok a) :
    (x >>= f).run.run g = (f a).run.run (x.run.run g).2 := by
  have hx : x.run.run g = (.ok a, (x.run.run g).2) := Prod.ext h rfl
  rw [ExceptT.run_bind, StateT.run_bind, hx]
  rfl

theorem run_bind_error {x : Fill γ α} {f : α → Fill γ β} {g : γ} {e : GenerationError}
    (h : (x.run.run g).1 = .error e) : ((x >>= f).run.run g).1 = .error e := by
  have hx : x.run.run g = (.error e, (x.run.run g).2) := Prod.ext h rfl
  rw [ExceptT.run_bind, StateT.run_bind, hx]
  rfl

theorem ensures_mapM {f : α → Fill γ β} {P : α → β → Prop} {E : GenerationError → Prop}
    {l : List α} (h : ∀ a ∈ l, Ensures (f a) (P a) E) :
    Ensures (l.mapM f) (List.Forall₂ P l) E := by
  induction l with
  | nil => exact ensures_pure .nil
  | cons a rest ih =>
    rw [List.mapM_cons]
    refine (h a (List.mem_cons_self ..)).bind fun b hb => ?_
    refine (ih fun x hx => h x (List.mem_cons_of_mem _ hx)).bind fun bs hbs => ?_
    exact ensures_pure (.cons hb hbs)

/-! ## Cells -/

variable [Generator γ]

/-- What a cell of a column may hold, in the context of the row before it. -/
inductive Made (source : ValueSource γ) (e : Entity) (rows : Nat) (c : Column) (row : RowContext) :
    Value → Prop
  /-- The primary key counts the rows. -/
  | key (h : e.isKey c.name = true) : Made source e rows c row (.int (row.rowIndex + 1))
  /-- A reference of an entity to itself has a key of the table that is being filled. -/
  | own {k : ForeignKey} {n : Int} (h : e.isKey c.name = false) (hk : c.foreignKey = some k)
      (hp : k.parentKey.isSome) (hself : k.parent = e.name) (hn : n ∈ keyRange rows) :
      Made source e rows c row (.int n)
  /-- Any other reference has a key of its parent. -/
  | picked {k : ForeignKey} {n : Int} (h : e.isKey c.name = false) (hk : c.foreignKey = some k)
      (hp : k.parentKey.isSome) (hother : k.parent ≠ e.name) (hn : n ∈ row.keys.of k.parent) :
      Made source e rows c row (.int n)
  /-- An attribute has the value of the source. -/
  | sourced {a : Attribute} {v : Value} (g : γ) (h : e.isKey c.name = false)
      (hk : c.foreignKey = none) (ha : c.attr = some a)
      (hv : ((source row a).run g).1 = some v) : Made source e rows c row v
  /-- Where the source has none, the type decides. -/
  | fallback {a : Attribute} (g : γ) (h : e.isKey c.name = false) (hk : c.foreignKey = none)
      (ha : c.attr = some a) (hv : ((source row a).run g).1 = none) :
      Made source e rows c row ((a.fallback).run ((source row a).run g).2).1
  | null (h : e.isKey c.name = false) (hk : c.foreignKey = none) (ha : c.attr = none) :
      Made source e rows c row .null

/-- Why a column cannot be filled when those keys have been generated. -/
inductive Refused (e : Entity) (pools : KeyPools) (c : Column) : GenerationError → Prop
  /-- The parent has no key at all. -/
  | missing {k : ForeignKey} (h : e.isKey c.name = false) (hk : c.foreignKey = some k)
      (hp : k.parentKey = none) :
      Refused e pools c (.missingParentKey e.name k.column k.parent)
  /-- The parent has a key, but its table has not been filled. -/
  | empty {k : ForeignKey} (h : e.isKey c.name = false) (hk : c.foreignKey = some k)
      (hp : k.parentKey.isSome) (hother : k.parent ≠ e.name) (hempty : pools.of k.parent = []) :
      Refused e pools c (.emptyKeyPool e.name k.column k.parent)

theorem cell_ensures {source : ValueSource γ} {e : Entity} {rows : Nat} {c : Column}
    {row : RowContext} (hrows : 0 < rows) :
    Ensures (cell source e rows c row) (Made source e rows c row) (Refused e row.keys c) := by
  unfold cell
  split
  · rename_i h
    exact ensures_pure (.key h)
  · rename_i h
    replace h : e.isKey c.name = false := by simpa using h
    split
    · rename_i k hk
      unfold parentKey
      split
      · rename_i hp
        exact ensures_throw (.missing h hk (by simpa using hp))
      · rename_i hp
        replace hp : k.parentKey.isSome := by simpa [Option.isSome_iff_ne_none] using hp
        split
        · -- a reference to the own table: some key of the rows to come, too
          rename_i hself
          refine (ensures_draw (Draw.between_mem (by omega))).bind fun n hn => ?_
          exact ensures_pure (.own h hk hp hself (mem_keyRange.mpr hn))
        · -- any other one: a key that is in the pool, if there is any
          rename_i hother
          refine (ensures_draw (Draw.choose_mem _)).bind fun r hr => ?_
          rcases hr with ⟨hempty, rfl⟩ | ⟨n, hn, rfl⟩
          · exact ensures_throw (.empty h hk hp hother hempty)
          · exact ensures_pure (.picked h hk hp hother hn)
    · rename_i a hk ha
      -- no key: what the source gives, and else the value by type
      intro g
      rw [run_draw_bind]
      cases hv : ((source row a).run g).1 with
      | some v => exact .sourced g h hk ha hv
      | none => exact .fallback g h hk ha hv
    · rename_i hk ha
      exact ensures_pure (.null h hk ha)

/-! ## Rows -/

/-- A row that is made column by column from what is there of it. -/
inductive RowMade (source : ValueSource γ) (e : Entity) (rows : Nat) :
    RowContext → List Column → List Value → Prop
  | nil {row : RowContext} : RowMade source e rows row [] row.values
  | cons {row : RowContext} {c : Column} {rest : List Column} {v : Value} {vs : List Value}
      (hv : Made source e rows c row v)
      (hrest : RowMade source e rows { row with values := row.values ++ [v] } rest vs) :
      RowMade source e rows row (c :: rest) vs

theorem cells_ensures {source : ValueSource γ} {e : Entity} {rows : Nat} (hrows : 0 < rows)
    (columns : List Column) (row : RowContext) :
    Ensures (cells source e rows row columns) (RowMade source e rows row columns)
      fun err => ∃ c ∈ columns, Refused e row.keys c err := by
  induction columns generalizing row with
  | nil => exact ensures_pure .nil
  | cons c rest ih =>
    unfold cells
    refine Ensures.bind (P := Made source e rows c row) ?_ fun v hv => ?_
    · exact (cell_ensures hrows).mono (fun _ hv => hv)
        fun err herr => ⟨c, List.mem_cons_self .., herr⟩
    · refine (ih { row with values := row.values ++ [v] }).mono (fun vs hvs => .cons hv hvs) ?_
      intro err herr
      obtain ⟨c', hc', herr⟩ := herr
      exact ⟨c', List.mem_cons_of_mem _ hc', herr⟩

/-- The values that were there come first in the row. -/
theorem RowMade.append {source : ValueSource γ} {e : Entity} {rows : Nat} {row : RowContext}
    {columns : List Column} {vs : List Value} (h : RowMade source e rows row columns vs) :
    ∃ new, vs = row.values ++ new ∧ new.length = columns.length := by
  induction h with
  | nil => exact ⟨[], by simp, rfl⟩
  | @cons row c rest v vs _ _ ih =>
    obtain ⟨new, hvs, hlen⟩ := ih
    exact ⟨v :: new, by simpa using hvs, by simp [hlen]⟩

/-- Each cell was made in the context of the cells before it. -/
theorem RowMade.getElem? {source : ValueSource γ} {e : Entity} {rows : Nat} {row : RowContext}
    {columns : List Column} {vs : List Value} (h : RowMade source e rows row columns vs) :
    ∀ j c, columns[j]? = some c → ∃ v, vs[row.values.length + j]? = some v ∧
      Made source e rows c { row with values := vs.take (row.values.length + j) } v := by
  induction h with
  | nil =>
    intro j c hc
    exact absurd hc (by simp)
  | @cons row c rest v vs hv hrest ih =>
    intro j c' hc'
    cases j with
    | zero =>
      -- the cell that was made first: behind it the row has only grown
      obtain rfl : c = c' := by simpa using hc'
      obtain ⟨new, hvs, _⟩ := hrest.append
      refine ⟨v, ?_, ?_⟩
      · simp [hvs]
      · have htake : vs.take row.values.length = row.values := by simp [hvs]
        rw [Nat.add_zero, htake]
        exact hv
    | succ j =>
      -- any other cell is counted from the row with one cell more
      obtain ⟨w, hw, hmade⟩ := ih j c' (by simpa using hc')
      have hlen : (row.values ++ [v]).length + j = row.values.length + (j + 1) := by
        simp only [List.length_append, List.length_singleton]
        omega
      rw [hlen] at hw hmade
      exact ⟨w, hw, hmade⟩

/-! ## Tables of entities -/

/-- The context of a row of an entity's table before its first cell. -/
def rowStart (s : Schema) (p : Progress) (e : Entity) (i : Nat) : RowContext :=
  ⟨e.name, i, (s.columns e.name).map Column.name, [], p.tables, p.pools⟩

/-- A table of an entity, filled after the tables of `p`. -/
structure TableMade (source : ValueSource γ) (s : Schema) (rows : Nat) (p : Progress) (e : Entity)
    (t : Table) : Prop where
  name : t.name = e.name
  kind : t.kind = .entity
  columns : t.columns = (s.columns e.name).map Column.name
  length : t.rows.length = rows
  row : ∀ i r, t.rows[i]? = some r →
    RowMade source e rows (rowStart s p e i) (s.columns e.name) r

theorem entityTable_ensures {source : ValueSource γ} {s : Schema} {rows : Nat} {p : Progress}
    {e : Entity} :
    Ensures (entityTable source s rows p e) (TableMade source s rows p e)
      fun err => 0 < rows ∧ ∃ c ∈ s.columns e.name, Refused e p.pools c err := by
  unfold entityTable
  refine Ensures.bind (P := List.Forall₂ (fun i r =>
      RowMade source e rows (rowStart s p e i) (s.columns e.name) r) (List.range rows)) ?_
    fun filled h => ensures_pure ⟨rfl, rfl, rfl, ?_, fun i r hr => ?_⟩
  · refine ensures_mapM fun i hi => ?_
    -- a row can only fail where there is one
    have hrows : 0 < rows := Nat.zero_lt_of_lt (List.mem_range.mp hi)
    exact (cells_ensures hrows _ (rowStart s p e i)).mono (fun _ hr => hr)
      fun err herr => ⟨hrows, herr⟩
  · simpa using h.length_eq.symm
  · obtain ⟨hlen, rfl⟩ := List.getElem?_eq_some_iff.mp hr
    have hi : i < (List.range rows).length := h.length_eq ▸ hlen
    simpa using h.get hi hlen

/-- What is filled after one more entity. -/
def withEntity (p : Progress) (rows : Nat) (name : String) (e : Entity) (t : Table) :
    Progress :=
  ⟨p.tables ++ [t], if e.primaryKey.isSome then p.pools ++ [(name, keyRange rows)] else p.pools⟩

theorem entity_ensures {source : ValueSource γ} {s : Schema} {rows : Nat} {p : Progress}
    {name : String} :
    Ensures (entity source s rows p name)
      (fun p' => ∃ e t, s.entity? name = some e ∧ TableMade source s rows p e t ∧
        p' = withEntity p rows name e t)
      fun err => (s.entity? name = none ∧ err = .unknownEntity name) ∨
        ∃ e, s.entity? name = some e ∧ 0 < rows ∧
          ∃ c ∈ s.columns e.name, Refused e p.pools c err := by
  unfold entity
  split
  · rename_i he
    exact ensures_throw (Or.inl ⟨he, rfl⟩)
  · rename_i e he
    refine Ensures.bind (P := TableMade source s rows p e) ?_ fun t ht => ?_
    · exact entityTable_ensures.mono (fun _ ht => ht) fun err herr => Or.inr ⟨e, he, herr⟩
    · exact ensures_pure ⟨e, t, he, ht, rfl⟩

end Fill

end Crowfoot
