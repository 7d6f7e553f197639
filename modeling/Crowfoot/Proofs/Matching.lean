import Crowfoot.Plan
import Crowfoot.Proofs.Generation
import Crowfoot.Random.SplitMix

/-!
# Join tables are perfect matchings

Whatever the schema and the order are, the pools of a run are empty or have the keys of
all rows. A join table needs both its pools, and shuffling them and putting them side by
side gives a pair for each row, each key once on either side. The loop for further pairs
is over before it starts, so it does not matter that drawing alone might never end it.
-/

namespace Crowfoot

open Fill Generation

/-- A table of pairs with each key of the rows once on either side. -/
structure Table.IsMatching (rows : Nat) (t : Table) : Prop where
  cells : ∃ pairs : List (Int × Int), t.rows = pairs.map (fun (l, r) => [.int l, .int r]) ∧
    (pairs.map Prod.fst).Perm (keyRange rows) ∧ (pairs.map Prod.snd).Perm (keyRange rows)
  length : t.rows.length = rows
  distinct : t.rows.Nodup
  left_once : ∀ n ∈ keyRange rows, t.rows.countP (·[0]? = some (.int n)) = 1
  right_once : ∀ n ∈ keyRange rows, t.rows.countP (·[1]? = some (.int n)) = 1

/-- The row of a pair. -/
def pairRow : Int × Int → List Value := fun (l, r) => [.int l, .int r]

/-- A column that holds one side of each pair holds each key once. -/
theorem countP_side {rows : Nat} {pairs : List (Int × Int)} {side : Int × Int → Int} {j : Nat}
    (hside : ∀ pair, (pairRow pair)[j]? = some (.int (side pair)))
    (hperm : (pairs.map side).Perm (keyRange rows)) {n : Int} (hn : n ∈ keyRange rows) :
    (pairs.map pairRow).countP (·[j]? = some (.int n)) = 1 := by
  have hcount : (pairs.map side).count n = 1 := by
    rw [hperm.count_eq]
    exact List.count_eq_one_of_mem (nodup_keyRange rows) hn
  rw [List.count, List.countP_map] at hcount
  rw [List.countP_map, ← hcount]
  refine List.countP_congr fun pair _ => ?_
  simp [hside]

theorem Fill.JoinMade.isMatching {s : Schema} {rows : Nat} {t : JoinTable} {filled : Table}
    (h : JoinMade s rows t filled) : filled.IsMatching rows := by
  obtain ⟨pairs, hpairs, hrows⟩ := h.matched
  refine ⟨⟨pairs, hrows, hpairs.fst_perm, hpairs.snd_perm⟩, h.length, ?_, fun n hn => ?_,
    fun n hn => ?_⟩
  · rw [hrows]
    refine hpairs.nodup.map fun a b hab => ?_
    simp only [List.cons.injEq, Value.int.injEq, and_true] at hab
    exact Prod.ext hab.1 hab.2
  · rw [hrows]
    exact countP_side (fun _ => rfl) hpairs.fst_perm hn
  · rw [hrows]
    exact countP_side (fun _ => rfl) hpairs.snd_perm hn

variable {γ : Type} [Generator γ]

/-! ## The loop for further pairs -/

/-- A run gets to that join table with that progress and generator. -/
def Generation.GetsTo (source : ValueSource γ) (s : Schema) (o : DependencyOrder) (rows : Nat)
    (g : γ) (t : JoinTable) (y : Progress × γ) : Prop :=
  ∃ before after, s.joinTables = before ++ t :: after ∧
    Leads (o.entities.map (entityStep source s rows) ++ before.map (joinStep s rows)) (.start, g) y

/-- A join table with rows is filled from the pools of both its sides. -/
theorem Fill.join_pools {s : Schema} {rows : Nat} {p : Progress} {t : JoinTable}
    (hrows : 0 < rows) :
    Ensures (γ := γ) (join s rows p t) (fun _ => ∃ left right,
      joinPool s t p.pools t.left = .ok left ∧ joinPool s t p.pools t.right = .ok right)
      fun _ => True := by
  have hpool : ∀ side, Ensures (γ := γ) (joinPool s t p.pools side)
      (fun keys => joinPool s t p.pools side = .ok keys) fun _ => True := by
    intro side
    refine ensures_liftExcept ?_
    cases h : joinPool s t p.pools side with
    | ok keys => rfl
    | error err => trivial
  refine Ensures.bind (P := fun _ => ∃ left right, joinPool s t p.pools t.left = .ok left ∧
    joinPool s t p.pools t.right = .ok right) ?_ fun _ h => ensures_pure h
  unfold joinTable
  rw [if_neg (Nat.pos_iff_ne_zero.mp hrows)]
  refine (hpool t.left).bind fun left hleft => ?_
  refine (hpool t.right).bind fun right hright => ?_
  refine (ensures_draw (P := fun _ => True) fun _ => trivial).bind fun pairs _ => ?_
  refine (ensures_draw (P := fun _ => True) fun _ => trivial).bind fun pairs _ => ?_
  exact ensures_pure ⟨left, right, hleft, hright⟩

namespace Plan

/-- A run that gives a dataset gets to every join table, and both its pools are there. -/
theorem getsTo_of_ok {p : Plan} {source : ValueSource γ} {rows : Nat} {g : γ} {d : Dataset}
    (hrows : 0 < rows) (hd : ((p.dataset source rows).run g).1 = .ok d) {t : JoinTable}
    (ht : t ∈ p.schema.joinTables) :
    ∃ y left right, GetsTo source p.schema p.order rows g t y ∧
      joinPool p.schema t y.1.pools t.left = .ok left ∧
      joinPool p.schema t y.1.pools t.right = .ok right := by
  obtain ⟨z, hl, _⟩ := leads_of_ok hd
  obtain ⟨before, after, hsplit⟩ := List.append_of_mem ht
  -- the steps split at the join table, behind all entities and the join tables before it
  have hsteps : steps source p.schema p.order rows
      = (p.order.entities.map (entityStep source p.schema rows)
        ++ before.map (joinStep p.schema rows))
        ++ joinStep p.schema rows t :: after.map (joinStep p.schema rows) := by
    unfold steps
    rw [hsplit, List.map_append, List.map_cons, List.append_assoc]
    rfl
  rw [hsteps] at hl
  obtain ⟨y, hbefore, hafter⟩ := leads_append hl
  cases hafter with
  | cons hstep _ =>
    obtain ⟨left, right, hleft, hright⟩ := (join_pools hrows).of_ok hstep
    exact ⟨_, left, right, ⟨before, after, hsplit, hbefore⟩, hleft, hright⟩

/-- The join tables of a dataset are those of its kind of table. -/
theorem joinTables_of_ok {p : Plan} {source : ValueSource γ} {rows : Nat} {g : γ} {d : Dataset}
    (hd : ((p.dataset source rows).run g).1 = .ok d) :
    List.Forall₂ (JoinMade p.schema rows) p.schema.joinTables
      (d.tables.filter (·.kind = .join)) := by
  obtain ⟨q, joins, hq, hjoins, htables⟩ := dataset_ok hd
  -- the tables in front are those of entities, and all behind are join tables
  have hnone : q.tables.filter (·.kind = .join) = [] := by
    rw [List.filter_eq_nil_iff]
    intro t ht
    obtain ⟨_, _, _, _, _, hmade⟩ := filled_mem hq ht
    simp [hmade.kind]
  have hall : joins.filter (·.kind = .join) = joins := by
    rw [List.filter_eq_self]
    intro t ht
    obtain ⟨_, _, hmade⟩ := joinMade_of_mem hjoins ht
    simp [hmade.kind]
  rw [htables, List.filter_append, hnone, hall, List.nil_append]
  exact hjoins

/--
**Join tables are perfect matchings, and no further pairs are ever drawn.**

Of any plan: a dataset has a table for each join table of the schema, with its name and
columns and with each key once on either side. To give it, the run gets to each of them
and finds both pools. Whenever a run does so, the shuffled sides leave no pair wanting, so
however many attempts it is given the loop for further pairs draws nothing. No table of a
run, even of one that fails, is noted as too short.
-/
theorem joins_matching (p : Plan) (source : ValueSource γ) (rows : Nat) (g : γ) :
    (∀ d, ((p.dataset source rows).run g).1 = .ok d →
      List.Forall₂ (fun t filled => filled.name = t.name ∧ filled.columns = t.columns ∧
        filled.IsMatching rows) p.schema.joinTables (d.tables.filter (·.kind = .join)) ∧
      (0 < rows → ∀ t ∈ p.schema.joinTables, ∃ y left right,
        GetsTo source p.schema p.order rows g t y ∧
        joinPool p.schema t y.1.pools t.left = .ok left ∧
        joinPool p.schema t y.1.pools t.right = .ok right)) ∧
    (∀ t y left right, GetsTo source p.schema p.order rows g t y →
      joinPool p.schema t y.1.pools t.left = .ok left →
      joinPool p.schema t y.1.pools t.right = .ok right →
      ¬ Wanting rows left right ((matching rows left right).run y.2).1 ∧
      ∀ attempts, drawMore (γ := γ) rows left right attempts ((matching rows left right).run y.2).1
        = pure ((matching rows left right).run y.2).1) ∧
    ∀ name asked filled, .joinShort name asked filled ∉
      ((p.generate source rows).run g).1.notes rows := by
  refine ⟨fun d hd => ?_, fun t y left right hgets hleft hright => ?_,
    fun name asked filled h => ?_⟩
  · refine ⟨(joinTables_of_ok hd).imp fun t filled hmade => ?_, fun hrows t ht => ?_⟩
    · exact ⟨hmade.name, hmade.columns, hmade.isMatching⟩
    · exact getsTo_of_ok hrows hd ht
  · obtain ⟨before, after, _, hl⟩ := hgets
    obtain ⟨q, tables, _, _, hy⟩ := leads_entities hl
    -- join tables leave the keys alone, so all of them are there whenever one is come to
    have hpools : FullPools rows y.1.pools := by
      rw [hy]
      exact fullPools_poolsOf p.schema rows p.order.entities
    have hnot := not_wanting_matching hpools hleft hright y.2
    exact ⟨hnot, fun attempts => drawMore_of_not_wanting hnot attempts⟩
  · obtain ⟨t, ht, hnote⟩ := List.mem_flatMap.mp h
    -- the table has all its rows, so there is nothing to note about them
    have hlen := length_rows ht
    unfold tableNotes at hnote
    split at hnote
    · exact absurd hnote (by simp)
    · rw [if_neg (by omega)] at hnote
      exact absurd hnote (by simp)

/-- An entity that is paired with itself and with another one. -/
def pairText : String :=
  "entity A \x7b\nid : number <<generated>>\n\x7d\n"
    ++ "entity B \x7b\nid : number <<generated>>\n\x7d\n"
    ++ "A \x7do--o\x7b A\nA \x7do--o\x7b B\n"

/-- Both tables are matchings, also the one with the same keys on both sides. -/
theorem joins_matching_self :
    ∃ p d, ofText .synthesize pairText = .ok p ∧
      ((p.dataset (fun _ _ => return none) 3).run (SplitMix.mk [] 5)).1 = .ok d ∧
      p.schema.joinTables.map JoinTable.columns = [["A_id", "A_id_2"], ["A_id", "B_id"]] ∧
      List.Forall₂ (fun t filled => filled.name = t.name ∧ filled.columns = t.columns ∧
        filled.IsMatching 3) p.schema.joinTables (d.tables.filter (·.kind = .join)) := by
  have heval : (ofText .synthesize pairText).toOption.any (fun p =>
      decide (p.schema.joinTables.map JoinTable.columns = [["A_id", "A_id_2"], ["A_id", "B_id"]]) &&
        ((p.dataset (fun _ _ => return none) 3).run (SplitMix.mk [] 5)).1.toOption.any
          fun _ => true) = true := by
    decide +kernel
  obtain ⟨p, hplan, htest⟩ := exists_ok_of_any heval
  obtain ⟨hcolumns, hdata⟩ := Bool.and_eq_true_iff.mp htest
  obtain ⟨d, hd, _⟩ := exists_ok_of_any hdata
  obtain ⟨hjoins, _⟩ := joins_matching p (fun _ _ => return none) 3 (SplitMix.mk [] 5)
  exact ⟨p, d, hplan, hd, of_decide_eq_true hcolumns, (hjoins d hd).1⟩

end Plan

end Crowfoot
