import Crowfoot.Proofs.Tables
import Crowfoot.Random.SplitMix

/-!
# Referential integrity

In the dataset of a plan that was made from a text, every entity has one table, every key
column counts the rows, and a foreign key is a key of the parent's table. The last needs
no word about the order of the tables: a pool that a key was picked from is not empty, and
a pool that is not empty has the keys of all rows.
-/

namespace Crowfoot.Plan

open Fill Generation

variable {γ : Type} [Generator γ] {source : ValueSource γ} {p : Plan} {rows : Nat} {g : γ}
  {d : Dataset}

/-- What the tables of a plan's entities hold. -/
structure Integrity (p : Plan) (rows : Nat) (d : Dataset) : Prop where
  /-- Each entity has one table, with its columns and all rows. -/
  table : ∀ name ∈ p.schema.entities, ∃ t, d.entityTables name = [t] ∧
    t.columns = p.schema.columnNames name ∧ t.rows.length = rows
  /-- The cells under the name of a primary key count the rows. -/
  key : ∀ name e key, p.schema.entity? name = some e → e.primaryKey = some key →
    ∀ t ∈ d.entityTables name, t.columnValues key = (keyRange rows).map Value.int ∧
      ∀ (j : Nat), t.columns[j]? = some key → ∀ (i : Nat) (row : List Value),
        t.rows[i]? = some row → row[j]? = some (.int (i + 1))
  /-- The cells of a foreign key are cells under the primary key of the parent. -/
  reference : ∀ child, ∀ k ∈ p.schema.keysOf child, ∃ t parent, d.entityTables child = [t] ∧
    d.entityTables k.parent = [parent] ∧
    ∀ (j : Nat) (c : Column), (p.schema.columns child)[j]? = some c → c.foreignKey = some k →
      ∀ (i : Nat) (row : List Value), t.rows[i]? = some row →
        ∃ e key n, p.schema.entity? k.parent = some e ∧ e.primaryKey = some key ∧
          row[j]? = some (.int n) ∧ Value.int n ∈ parent.columnValues key

/--
**A dataset has referential integrity.**

Whatever the source and the generator: if there is a dataset for a text, each entity has
one table with all the rows, key columns count the rows, and each cell of a foreign key
is a key in the table of the parent. For a reference to itself that is the child's table.
-/
theorem dataset_integrity {mode : Undeclared} {text : String} (hplan : ofText mode text = .ok p)
    (hd : ((p.dataset source rows).run g).1 = .ok d) : p.Integrity rows d := by
  have hp := regular_ofText hplan
  refine ⟨fun name hname => ?_, fun name e key he hkey t ht => ?_, fun child k hk => ?_⟩
  · obtain ⟨e, t, _, _, _, he, ht, _, hmade⟩ := one_table hp hd hname
    refine ⟨t, ht, ?_, hmade.length⟩
    rw [hmade.columns, (hp.proper name e he).named]
    rfl
  · obtain ⟨e', t', _, _, _, he', ht', _, hmade⟩ :=
      one_table hp hd ((p.schema.mem_entities_iff name).mpr ⟨e, he⟩)
    obtain rfl := Option.some.inj (he.symm.trans he')
    rw [ht', List.mem_singleton] at ht
    subst ht
    have hproper := hp.proper name e he
    refine ⟨tableMade_columnValues hmade ?_ ?_ hkey, fun j hj i row hrow =>
      tableMade_key_cell hmade hkey hrow hj⟩
    · rw [hproper.named]
      exact he
    · rw [hproper.named]
      exact hproper
  · obtain ⟨hchild, hparent⟩ := hp.linked.ends child k hk
    obtain ⟨e, t, _, before, _, he, ht, _, hmade⟩ := one_table hp hd hchild
    obtain ⟨e', t', _, _, _, he', ht', _, hmade'⟩ := one_table hp hd hparent
    refine ⟨t, t', ht, ht', fun j c hc hck i row hrow => ?_⟩
    have hproper := hp.proper child e he
    have hproper' := hp.proper k.parent e' he'
    have hnotkey := hp.linked.column_ne_key he hproper (List.mem_of_getElem? hc) hck
    rw [← hproper.named] at hc
    obtain ⟨v, hv, hcell⟩ := tableMade_cell hmade hrow hc
    obtain ⟨hsome, _, n, hn, rfl⟩ :=
      made_foreignKey hcell hnotkey hck (fullPools_poolsOf p.schema rows before)
    obtain ⟨key, hkey⟩ := Option.isSome_iff_exists.mp hsome
    -- the key was looked up when the reference was made, but entities do not change
    have hparentKey : e'.primaryKey = some key := by
      rw [hp.linked.key child k hk] at hkey
      simpa [Schema.referenceTo, he'] using hkey
    refine ⟨e', key, n, he', hparentKey, hv, ?_⟩
    rw [tableMade_columnValues hmade' (by rw [hproper'.named, he']) (hproper'.named ▸ hproper')
      hparentKey]
    exact List.mem_map_of_mem hn

/-- An entity that refers to itself, and a child that declares its key column in another case. -/
def selfText : String :=
  "entity A \x7b\na_id : number <<generated>>\n\x7d\n"
    ++ "entity B \x7b\nid : number <<generated>>\na_ID : number\n\x7d\n"
    ++ "A ||--o\x7b A\nA ||--o\x7b B\n"

/-- The reference to itself stands beside the key, whose name it would have had. -/
theorem dataset_integrity_self :
    ∃ p d, ofText .synthesize selfText = .ok p ∧
      ((p.dataset (fun _ _ => return none) 2).run (SplitMix.mk [] 7)).1 = .ok d ∧
      ⟨"parent_A_id", "A", some "a_id"⟩ ∈ p.schema.keysOf "A" ∧
      ⟨"a_ID", "A", some "a_id"⟩ ∈ p.schema.keysOf "B" ∧ p.Integrity 2 d := by
  have heval : (ofText .synthesize selfText).toOption.any
      (fun p => decide (⟨"parent_A_id", "A", some "a_id"⟩ ∈ p.schema.keysOf "A" ∧
          ⟨"a_ID", "A", some "a_id"⟩ ∈ p.schema.keysOf "B") &&
        ((p.dataset (fun _ _ => return none) 2).run (SplitMix.mk [] 7)).1.toOption.any
          fun _ => true) = true := by
    decide +kernel
  obtain ⟨p, hplan, htest⟩ := exists_ok_of_any heval
  obtain ⟨hkeys, hdata⟩ := Bool.and_eq_true_iff.mp htest
  obtain ⟨hself, hchild⟩ := of_decide_eq_true hkeys
  obtain ⟨d, hd, _⟩ := exists_ok_of_any hdata
  exact ⟨p, d, hplan, hd, hself, hchild, dataset_integrity hplan hd⟩

end Crowfoot.Plan
