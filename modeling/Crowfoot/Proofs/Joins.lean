import Crowfoot.Proofs.Filling
import Crowfoot.Proofs.Linked
import Mathlib.Data.List.Nodup

/-!
# What a join table holds

As long as every pool is empty or holds the keys `1, 2, …` up to the number of rows, both
shuffled sides are rearrangements of these keys. Matched item by item they give as many
pairs as there are rows, so no further pair is wanted and none is drawn.
-/

namespace Crowfoot

theorem length_keyRange (rows : Nat) : (keyRange rows).length = rows := by simp [keyRange]

theorem keyRange_ne_nil {rows : Nat} (h : 0 < rows) : keyRange rows ≠ [] :=
  List.ne_nil_of_length_pos (by rw [length_keyRange]; exact h)

theorem nodup_keyRange (rows : Nat) : (keyRange rows).Nodup := by
  refine List.Pairwise.map _ (fun i j hij he => hij ?_) List.nodup_range
  omega

namespace Fill

variable {γ : Type} [Generator γ]

/-- Every pool is empty or has a key for each row. -/
def FullPools (rows : Nat) (pools : KeyPools) : Prop :=
  ∀ name, pools.of name = [] ∨ pools.of name = keyRange rows

/-- Pairs of which each side rearranges the keys of the rows. -/
structure Matched (rows : Nat) (pairs : List (Int × Int)) : Prop where
  fst_perm : (pairs.map Prod.fst).Perm (keyRange rows)
  snd_perm : (pairs.map Prod.snd).Perm (keyRange rows)

theorem Matched.length {rows : Nat} {pairs : List (Int × Int)} (h : Matched rows pairs) :
    pairs.length = rows := by
  rw [← List.length_map Prod.fst, h.fst_perm.length_eq, length_keyRange]

/-- The left sides alone keep the pairs apart. -/
theorem Matched.nodup {rows : Nat} {pairs : List (Int × Int)} (h : Matched rows pairs) :
    pairs.Nodup :=
  .of_map Prod.fst (h.fst_perm.nodup_iff.mpr (nodup_keyRange rows))

/-- Matching full pools gives a pair for every row. -/
theorem matching_ensures (rows : Nat) :
    (matching (γ := γ) rows (keyRange rows) (keyRange rows)).Ensures (Matched rows) := by
  unfold matching
  refine (Draw.shuffle_perm _).bind fun left hl => ?_
  refine (Draw.shuffle_perm _).bind fun right hr => Draw.ensures_pure ?_
  have hlen : left.length = right.length := hl.length_eq.trans hr.length_eq.symm
  have htake : (left.zip right).take rows = left.zip right := by
    refine List.take_of_length_le (Nat.le_of_eq ?_)
    rw [List.length_zip, ← hlen, Nat.min_self, hl.length_eq, length_keyRange]
  rw [htake]
  refine ⟨?_, ?_⟩
  · rw [List.map_fst_zip (Nat.le_of_eq hlen)]
    exact hl
  · rw [List.map_snd_zip (Nat.le_of_eq hlen.symm)]
    exact hr

/-- **Where there is a pair for every row, no more are wanted.** -/
theorem Matched.not_wanting {rows : Nat} {pairs : List (Int × Int)} (h : Matched rows pairs)
    (left right : List Int) : ¬ Wanting rows left right pairs := by
  intro hw
  have hlt := hw.1
  rw [h.length] at hlt
  exact Nat.lt_irrefl _ hlt

/-- Where no pairs are wanted, none is drawn, however many attempts are allowed. -/
theorem drawMore_of_not_wanting {rows : Nat} {left right : List Int} {pairs : List (Int × Int)}
    (h : ¬ Wanting rows left right pairs) (attempts : Nat) :
    drawMore (γ := γ) rows left right attempts pairs = pure pairs := by
  cases attempts with
  | zero => rfl
  | succ n =>
    unfold drawMore
    rw [if_neg h]

/-- A join table whose pairs match the keys of its sides. -/
structure JoinMade (s : Schema) (rows : Nat) (t : JoinTable) (filled : Table) : Prop where
  name : filled.name = t.name
  kind : filled.kind = .join
  columns : filled.columns = t.columns
  matched : ∃ pairs, Matched rows pairs ∧ filled.rows = pairs.map fun (l, r) => [.int l, .int r]
  /-- Without rows no key is needed. -/
  keyed : 0 < rows → s.HasKey t.left.entity ∧ s.HasKey t.right.entity

theorem JoinMade.length {s : Schema} {rows : Nat} {t : JoinTable} {filled : Table}
    (h : JoinMade s rows t filled) : filled.rows.length = rows := by
  obtain ⟨pairs, hpairs, hrows⟩ := h.matched
  rw [hrows, List.length_map, hpairs.length]

theorem joinMade_of_mem {s : Schema} {rows : Nat} {joins : List JoinTable} {tables : List Table}
    (h : List.Forall₂ (JoinMade s rows) joins tables) {filled : Table} (hf : filled ∈ tables) :
    ∃ t ∈ joins, JoinMade s rows t filled := by
  induction h with
  | nil => exact absurd hf (by simp)
  | @cons t _ joins _ hmade _ ih =>
    rcases List.mem_cons.mp hf with rfl | hf
    · exact ⟨t, List.mem_cons_self .., hmade⟩
    · obtain ⟨t', ht', hmade'⟩ := ih hf
      exact ⟨t', List.mem_cons_of_mem _ ht', hmade'⟩

/-- Why a join table cannot be filled when those keys have been generated. -/
inductive JoinRefused (s : Schema) (pools : KeyPools) (t : JoinTable) : GenerationError → Prop
  | missing {side : JoinSide} (hside : side = t.left ∨ side = t.right)
      (h : ¬ s.HasKey side.entity) :
      JoinRefused s pools t (.missingParentKey t.name side.column side.entity)
  | empty {side : JoinSide} (hside : side = t.left ∨ side = t.right) (h : s.HasKey side.entity)
      (hempty : pools.of side.entity = []) :
      JoinRefused s pools t (.emptyKeyPool t.name side.column side.entity)

theorem joinPool_outcome {s : Schema} {t : JoinTable} {pools : KeyPools} {side : JoinSide}
    {rows : Nat} (hpools : FullPools rows pools) (hside : side = t.left ∨ side = t.right) :
    Outcome (fun keys => s.HasKey side.entity ∧ keys = keyRange rows) (JoinRefused s pools t)
      (joinPool s t pools side) := by
  unfold joinPool
  split
  · rename_i hkey
    exact .missing hside (by simpa [Schema.HasKey] using hkey)
  · rename_i hkey
    replace hkey : s.HasKey side.entity := by
      simpa [Schema.HasKey, Option.isSome_iff_ne_none] using hkey
    split
    · rename_i hempty
      exact .empty hside hkey (List.isEmpty_iff.mp hempty)
    · rename_i hne
      exact ⟨hkey, (hpools side.entity).resolve_left fun he => hne (by simp [he])⟩

/-- Once both pools are there, the loop that draws further pairs has nothing to do. -/
theorem not_wanting_matching {s : Schema} {t : JoinTable} {rows : Nat} {pools : KeyPools}
    (hpools : FullPools rows pools) {left right : List Int}
    (hl : joinPool s t pools t.left = .ok left) (hr : joinPool s t pools t.right = .ok right) :
    (matching (γ := γ) rows left right).Ensures fun pairs => ¬ Wanting rows left right pairs := by
  have hleft := joinPool_outcome (s := s) hpools (Or.inl (Eq.refl t.left))
  have hright := joinPool_outcome (s := s) hpools (Or.inr (Eq.refl t.right))
  rw [hl] at hleft
  rw [hr] at hright
  obtain ⟨_, rfl⟩ := hleft
  obtain ⟨_, rfl⟩ := hright
  exact (matching_ensures rows).mono fun _ h => h.not_wanting _ _

theorem joinTable_ensures {s : Schema} {rows : Nat} {p : Progress} {t : JoinTable}
    (hpools : FullPools rows p.pools) :
    Ensures (γ := γ) (joinTable s rows p t) (JoinMade s rows t)
      fun err => 0 < rows ∧ JoinRefused s p.pools t err := by
  unfold joinTable
  split
  · rename_i hzero
    subst hzero
    exact ensures_pure ⟨rfl, rfl, rfl, ⟨[], ⟨.refl _, .refl _⟩, rfl⟩,
      fun h => absurd h (by simp)⟩
  · rename_i hrows
    replace hrows : 0 < rows := Nat.pos_of_ne_zero hrows
    have hpool : ∀ side, side = t.left ∨ side = t.right →
        Ensures (γ := γ) (joinPool s t p.pools side)
          (fun keys => s.HasKey side.entity ∧ keys = keyRange rows)
          fun err => 0 < rows ∧ JoinRefused s p.pools t err :=
      fun side hside => (ensures_liftExcept (joinPool_outcome hpools hside)).mono (fun _ h => h)
        fun err herr => ⟨hrows, herr⟩
    refine (hpool t.left (Or.inl rfl)).bind fun left hleft => ?_
    refine (hpool t.right (Or.inr rfl)).bind fun right hright => ?_
    -- both sides draw from all keys, so the matching has all the pairs at once
    obtain ⟨hkl, rfl⟩ := hleft
    obtain ⟨hkr, rfl⟩ := hright
    refine (ensures_draw (matching_ensures rows)).bind fun pairs h => ?_
    rw [drawMore_of_not_wanting (h.not_wanting _ _)]
    exact ensures_pure ⟨rfl, rfl, rfl, ⟨pairs, h, rfl⟩, fun _ => ⟨hkl, hkr⟩⟩

theorem join_ensures {s : Schema} {rows : Nat} {p : Progress} {t : JoinTable}
    (hpools : FullPools rows p.pools) :
    Ensures (γ := γ) (join s rows p t)
      (fun p' => ∃ filled, JoinMade s rows t filled ∧ p' = ⟨p.tables ++ [filled], p.pools⟩)
      fun err => 0 < rows ∧ JoinRefused s p.pools t err :=
  (joinTable_ensures hpools).bind fun filled h => ensures_pure ⟨filled, h, rfl⟩

end Fill

end Crowfoot
