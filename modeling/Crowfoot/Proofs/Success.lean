import Crowfoot.Proofs.Tables
import Crowfoot.Random.SplitMix

/-!
# When there is a dataset

Three conditions on the plan decide it, and neither the generator nor the source of values
has a say. An error always names a spot where one of the conditions fails, so a plan that
meets them has a dataset. The other way round, each reference has a column and each column
a cell in the first row: whatever was picked for it shows that the parent has a key and,
unless it is the child itself, stands before the child in the order.
-/

namespace Crowfoot.Plan

open Fill Generation

/-- Nothing in the plan keeps a row from being filled. -/
structure Fillable (p : Plan) : Prop where
  /-- What is referred to has a primary key. -/
  parents : ∀ child, ∀ k ∈ p.schema.keysOf child, p.schema.HasKey k.parent
  /-- Only references of entities to themselves close cycles. -/
  cycles : ∀ child parent, (child, parent) ∈ p.order.backEdges → child = parent
  /-- What is paired has a primary key. -/
  sides : ∀ t ∈ p.schema.joinTables, p.schema.HasKey t.left.entity ∧ p.schema.HasKey t.right.entity

/-- The error names a reference or a side of a join table that cannot be filled. -/
inductive Blames (p : Plan) : GenerationError → Prop
  | parent {child : String} {k : ForeignKey} (hk : k ∈ p.schema.keysOf child)
      (h : ¬ p.schema.HasKey k.parent) : Blames p (.missingParentKey child k.column k.parent)
  | side {t : JoinTable} {side : JoinSide} (ht : t ∈ p.schema.joinTables)
      (hside : side = t.left ∨ side = t.right) (h : ¬ p.schema.HasKey side.entity) :
      Blames p (.missingParentKey t.name side.column side.entity)
  | cycle {child : String} {k : ForeignKey} (hk : k ∈ p.schema.keysOf child)
      (hb : (child, k.parent) ∈ p.order.backEdges) (hne : child ≠ k.parent) :
      Blames p (.emptyKeyPool child k.column k.parent)

theorem Blames.not_fillable {p : Plan} {err : GenerationError} (h : p.Blames err) :
    ¬ p.Fillable := by
  intro hp
  cases h with
  | parent hk h => exact h (hp.parents _ _ hk)
  | side ht hside h =>
    obtain ⟨hleft, hright⟩ := hp.sides _ ht
    rcases hside with rfl | rfl
    · exact h hleft
    · exact h hright
  | cycle _ hb hne => exact hne (hp.cycles _ _ hb)

/-! ## Errors -/

/-- The parents that stand before a child are those to which it has no back edge. -/
theorem Regular.mem_before_iff {p : Plan} (hp : p.Regular) {child : String} {k : ForeignKey}
    {before after : List String} (hk : k ∈ p.schema.keysOf child)
    (ho : p.order.entities = before ++ child :: after) :
    k.parent ∈ before ↔ (child, k.parent) ∉ p.order.backEdges := by
  have hchild : child ∈ p.order.entities := ho ▸ List.mem_append_right _ (List.mem_cons_self ..)
  rw [hp.order_eq] at ho hchild ⊢
  rw [← DependencyOrder.precedes_iff (DependencyOrder.ofSchema_nodup p.schema) ho]
  exact DependencyOrder.precedes_ofSchema_iff hchild (List.mem_map_of_mem hk)

/-- **An error needs a row, and names what cannot be filled.** -/
theorem blames_of_fails {p : Plan} (hp : p.Regular) {rows : Nat} {err : GenerationError}
    (h : Fails p.schema rows p.order.entities err) : 0 < rows ∧ p.Blames err := by
  cases h with
  | unknown hname hnone =>
    obtain ⟨e, he⟩ := (p.schema.mem_entities_iff _).mp (hp.mem_order.mp hname)
    exact absurd (hnone.symm.trans he) (by simp)
  | @entity before after name e c _ hrows ho he hc hrefused =>
    obtain rfl := (hp.proper name e he).named
    cases hrefused with
    | missing _ hck hnone =>
      obtain ⟨hk, _⟩ := Schema.columns_foreignKey hc hck
      refine ⟨hrows, .parent hk fun hkey => ?_⟩
      have hsome := (hp.linked.parentKey_isSome_iff hk).mpr hkey
      rw [hnone] at hsome
      exact absurd hsome (by simp)
    | @empty k _ hck hsome hother hempty =>
      obtain ⟨hk, _⟩ := Schema.columns_foreignKey hc hck
      refine ⟨hrows, .cycle hk ?_ (Ne.symm hother)⟩
      have hkey := (hp.linked.parentKey_isSome_iff hk).mp hsome
      -- without a back edge the parent would have been filled before
      by_contra hb
      have hbefore := (hp.mem_before_iff hk ho).mpr hb
      rw [of_poolsOf, if_pos ⟨hbefore, hkey⟩] at hempty
      exact keyRange_ne_nil hrows hempty
  | @join t _ hrows ht hrefused =>
    cases hrefused with
    | missing hside hkey => exact ⟨hrows, .side ht hside hkey⟩
    | @empty side hside hkey hempty =>
      -- the sides are entities, so they have been filled before the join tables
      exfalso
      have hin : side.entity ∈ p.schema.entities := by
        obtain ⟨hleft, hright⟩ := hp.linked.sides t ht
        rcases hside with rfl | rfl
        · exact hleft
        · exact hright
      rw [of_poolsOf, if_pos ⟨hp.mem_order.mpr hin, hkey⟩] at hempty
      exact keyRange_ne_nil hrows hempty

/-! ## Datasets -/

variable {γ : Type} [Generator γ] {source : ValueSource γ} {p : Plan} {rows : Nat} {g : γ}
  {d : Dataset}

/-- **What a first row shows of a reference.** -/
theorem reference_of_ok (hp : p.Regular) (hrows : 0 < rows)
    (hd : ((p.dataset source rows).run g).1 = .ok d) {child : String} {k : ForeignKey}
    (hk : k ∈ p.schema.keysOf child) :
    p.schema.HasKey k.parent ∧ (k.parent = child ∨ (child, k.parent) ∉ p.order.backEdges) := by
  obtain ⟨e, t, earlier, before, after, he, _, ho, hmade⟩ :=
    one_table hp hd (hp.linked.ends child k hk).1
  have hproper := hp.proper child e he
  obtain ⟨c, hc, hck⟩ := hp.linked.exists_column hk
  have hnotkey := hp.linked.column_ne_key he hproper hc hck
  obtain ⟨j, hj⟩ := List.mem_iff_getElem?.mp hc
  have hfirst : 0 < t.rows.length := hmade.length ▸ hrows
  rw [← hproper.named] at hj
  obtain ⟨v, _, hcell⟩ := tableMade_cell hmade (List.getElem?_eq_getElem hfirst) hj
  obtain ⟨hsome, hpick, _⟩ :=
    made_foreignKey hcell hnotkey hck (fullPools_poolsOf p.schema rows before)
  refine ⟨(hp.linked.parentKey_isSome_iff hk).mp hsome, ?_⟩
  -- a key that was picked from a pool puts the parent before the child
  rcases hpick with hself | hne
  · exact Or.inl (hself.trans hproper.named)
  · refine Or.inr ((hp.mem_before_iff hk ho).mp ?_)
    by_contra hbefore
    have hnone : (poolsOf p.schema rows before).of k.parent = [] := by
      rw [of_poolsOf, if_neg fun h => hbefore h.1]
    exact hne hnone

theorem fillable_of_ok (hp : p.Regular) (hrows : 0 < rows)
    (hd : ((p.dataset source rows).run g).1 = .ok d) : p.Fillable := by
  refine ⟨fun child k hk => (reference_of_ok hp hrows hd hk).1, fun child parent hb => ?_,
    fun t ht => ?_⟩
  · have hrefers := (DependencyOrder.ofSchema_backEdge (hp.order_eq ▸ hb)).1
    obtain ⟨k, hk, rfl⟩ := List.mem_map.mp hrefers
    rcases (reference_of_ok hp hrows hd hk).2 with hself | hb'
    · exact hself.symm
    · exact absurd hb hb'
  · obtain ⟨_, _, hmade⟩ := joinMade_of_joinTable hd ht
    exact hmade.keyed hrows

/-- There is a dataset. -/
def Generates (p : Plan) (source : ValueSource γ) (rows : Nat) (g : γ) : Prop :=
  ∃ d, ((p.dataset source rows).run g).1 = .ok d

/-- There is a dataset unless something in the plan is to blame. -/
theorem generates_iff (hp : p.Regular) :
    p.Generates source rows g ↔ (0 < rows → p.Fillable) := by
  constructor
  · intro h hrows
    obtain ⟨d, hd⟩ := h
    exact fillable_of_ok hp hrows hd
  · intro h
    cases hr : ((p.dataset source rows).run g).1 with
    | ok d => exact ⟨d, hr⟩
    | error err =>
      obtain ⟨hrows, hblames⟩ := blames_of_fails hp (dataset_error hr)
      exact absurd (h hrows) hblames.not_fillable

/--
**The plan alone decides whether there is a dataset.**

Without rows there always is one, of empty tables. With rows there is one if and only if
the plan is fillable, so the generator, the source and the number of rows make no
difference. An error names a reference or a side to blame, and never an unknown entity.
-/
theorem dataset_outcome {mode : Undeclared} {text : String} (hplan : ofText mode text = .ok p)
    (source : ValueSource γ) (rows : Nat) (g : γ) :
    (rows = 0 → ∃ d, ((p.dataset source rows).run g).1 = .ok d ∧ ∀ t ∈ d.tables, t.rows = []) ∧
    (1 ≤ rows → (p.Generates source rows g ↔ p.Fillable)) ∧
    (∀ (γ' : Type) [Generator γ'] (source' : ValueSource γ') (rows' : Nat) (g' : γ'),
      (rows' = 0 ↔ rows = 0) → (p.Generates source' rows' g' ↔ p.Generates source rows g)) ∧
    (∀ name, ((p.dataset source rows).run g).1 ≠ .error (.unknownEntity name)) ∧
    ∀ err, ((p.dataset source rows).run g).1 = .error err → p.Blames err := by
  have hp := regular_ofText hplan
  -- every error is one that the schema explains, and none of those is an unknown entity
  have hblames : ∀ err, ((p.dataset source rows).run g).1 = .error err → p.Blames err :=
    fun err herr => (blames_of_fails hp (dataset_error herr)).2
  refine ⟨fun hzero => ?_, fun hrows => ?_, fun γ' _ source' rows' g' hsame => ?_,
    fun name herr => ?_, hblames⟩
  · subst hzero
    obtain ⟨d, hd⟩ : p.Generates source 0 g := (generates_iff hp).mpr fun h => absurd h (by simp)
    exact ⟨d, hd, fun t ht => List.length_eq_zero_iff.mp (length_rows (tables_of_ok hd ▸ ht))⟩
  · rw [generates_iff hp]
    exact ⟨fun h => h hrows, fun h _ => h⟩
  · rw [generates_iff hp, generates_iff hp]
    have hpos : 0 < rows' ↔ 0 < rows := by omega
    rw [hpos]
  · cases hblames _ herr

/-- Two entities with keys that refer to each other. -/
def cycleText : String :=
  "entity A \x7b\nid : number <<generated>>\n\x7d\n"
    ++ "entity B \x7b\nid : number <<generated>>\n\x7d\n"
    ++ "A ||--o\x7b B\nB ||--o\x7b A\n"

/-- The one that is filled first has no keys to pick from, unless there is no row to fill. -/
theorem dataset_outcome_cycle :
    ∃ p, ofText .synthesize cycleText = .ok p ∧
      ((p.dataset (fun _ _ => return none) 1).run (SplitMix.mk [] 0)).1
        = .error (.emptyKeyPool "B" "A_id" "A") ∧
      p.Blames (.emptyKeyPool "B" "A_id" "A") ∧ ¬ p.Fillable ∧
      ∃ d, ((p.dataset (fun _ _ => return none) 0).run (SplitMix.mk [] 0)).1 = .ok d ∧
        ∀ t ∈ d.tables, t.rows = [] := by
  have heval : (ofText .synthesize cycleText).toOption.any (fun p =>
      decide (((p.dataset (fun _ _ => return none) 1).run (SplitMix.mk [] 0)).1
        = .error (.emptyKeyPool "B" "A_id" "A"))) = true := by
    decide +kernel
  obtain ⟨p, hplan, htest⟩ := exists_ok_of_any heval
  have herr := of_decide_eq_true htest
  obtain ⟨_, hiff, _, _, hblames⟩ :=
    dataset_outcome hplan (fun _ _ => return none) 1 (SplitMix.mk [] 0)
  obtain ⟨hzero, _⟩ := dataset_outcome hplan (fun _ _ => return none) 0 (SplitMix.mk [] 0)
  refine ⟨p, hplan, herr, hblames _ herr, fun hfill => ?_, hzero rfl⟩
  obtain ⟨d, hd⟩ := (hiff (Nat.le_refl 1)).mpr hfill
  exact absurd (herr.symm.trans hd) (by simp)

end Crowfoot.Plan
