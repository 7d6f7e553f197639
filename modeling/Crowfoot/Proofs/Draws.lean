import Crowfoot.Random.Shuffle
import Mathlib.Data.List.Perm.Basic

/-!
# What holds of every random choice

`Ensures` speaks of the result of a computation for every state of every generator, so
nothing here depends on the words that are drawn: a number stays below its bound even if
the carry of a second word is added, an item is one of its list, and a shuffled list has
the same items as before.
-/

namespace Crowfoot.Draw

variable {γ α β : Type}

/-- Whatever the generator gives, the result satisfies `P`. -/
def Ensures (x : Draw γ α) (P : α → Prop) : Prop := ∀ g, P (x.run g).1

theorem Ensures.mono {x : Draw γ α} {P Q : α → Prop} (h : Ensures x P) (hpq : ∀ a, P a → Q a) :
    Ensures x Q := fun g => hpq _ (h g)

theorem ensures_pure {a : α} {P : α → Prop} (h : P a) : Ensures (pure a : Draw γ α) P := fun _ => h

theorem Ensures.bind {x : Draw γ α} {f : α → Draw γ β} {P : α → Prop} {Q : β → Prop}
    (hx : Ensures x P) (hf : ∀ a, P a → Ensures (f a) Q) : Ensures (x >>= f) Q :=
  fun g => hf _ (hx g) (x.run g).2

/-- What was drawn need not be known if it does not matter. -/
theorem ensures_after {x : Draw γ α} {f : α → Draw γ β} {Q : β → Prop}
    (hf : ∀ a, Ensures (f a) Q) : Ensures (x >>= f) Q :=
  fun g => hf (x.run g).1 (x.run g).2

/-! ## Numbers -/

/-- The upper part of a word times `n` is below `n`. -/
theorem high_lt {w bits n : Nat} (hw : w < wordCount bits) (hn : 0 < n) :
    w * n / wordCount bits < n :=
  Nat.div_lt_of_lt_mul (Nat.mul_lt_mul_of_pos_right hw hn)

/-- Where the lower part calls for a carry, the upper part has room for it. -/
theorem high_succ_lt {w bits n : Nat} (hw : w < wordCount bits)
    (hlow : wordCount bits - n < w * n % wordCount bits) : w * n / wordCount bits + 1 < n := by
  have hsplit := Nat.div_add_mod (w * n) (wordCount bits)
  have hword : w * n + n ≤ wordCount bits * n := by
    rw [← Nat.succ_mul]
    exact Nat.mul_le_mul_right n hw
  -- otherwise the product would be at least `wordCount bits * n - n`, the lower part added
  refine Nat.lt_of_mul_lt_mul_left (a := wordCount bits) ?_
  rw [Nat.mul_add, Nat.mul_one]
  omega

theorem scaled_lt {word : Draw γ Nat} {bits n : Nat} (hw : Ensures word (· < wordCount bits))
    (hn : 0 < n) : Ensures (scaled word bits n) (· < n) := by
  refine hw.bind fun w hlt => ?_
  dsimp only
  split
  · rename_i hlow
    have := high_succ_lt hlt hlow
    refine hw.bind fun w' _ => ensures_pure ?_
    split <;> omega
  · exact ensures_pure (high_lt hlt hn)

variable [Generator γ]

theorem word32_lt : Ensures (γ := γ) word32 (· < wordCount 32) := fun g =>
  UInt32.toNat_lt (Generator.draw32 g).1

theorem word64_lt : Ensures (γ := γ) word64 (· < wordCount 64) := fun g =>
  UInt64.toNat_lt (Generator.draw64 g).1

theorem below32_lt {n : Nat} (hn : 0 < n) : Ensures (γ := γ) (below32 n) (· < n) :=
  scaled_lt word32_lt hn

theorem below64_lt {n : Nat} (hn : 0 < n) : Ensures (γ := γ) (below64 n) (· < n) :=
  scaled_lt word64_lt hn

theorem between_mem {low high : Int} (h : low ≤ high) :
    Ensures (γ := γ) (between low high) fun i => low ≤ i ∧ i ≤ high := by
  refine (below64_lt (by omega)).bind fun n hn => ensures_pure ?_
  omega

/-! ## Items -/

/-- An item is chosen if there is one. -/
theorem choose_mem (items : List α) :
    Ensures (γ := γ) (choose items) fun r => (items = [] ∧ r = none) ∨ ∃ a ∈ items, r = some a := by
  unfold choose
  split
  · rename_i hempty
    exact ensures_pure (Or.inl ⟨List.isEmpty_iff.mp hempty, rfl⟩)
  · rename_i hne
    have hpos : 0 < items.length := List.length_pos_iff.mpr fun he => hne (by simp [he])
    refine (below32_lt hpos).bind fun i hi => ensures_pure (Or.inr ⟨items[i], ?_, ?_⟩)
    · exact List.getElem_mem hi
    · exact List.getElem?_eq_getElem hi

theorem swapIfInBounds_perm (items : Array α) (i j : Nat) :
    (items.swapIfInBounds i j).toList.Perm items.toList := by
  unfold Array.swapIfInBounds
  split
  · split
    · exact (Array.swap_perm _ _).toList
    · exact .refl _
  · exact .refl _

theorem shuffleFrom_perm (items : Array α) (i : Nat) (s : Indices) :
    Ensures (γ := γ) (shuffleFrom items i s) (·.toList.Perm items.toList) := by
  unfold shuffleFrom
  split
  · refine Ensures.bind (P := fun _ => True) (fun _ => trivial) fun ⟨j, s'⟩ _ => ?_
    have hrest := shuffleFrom_perm (items.swapIfInBounds i j) (i + 1) s'
    exact hrest.mono fun _ hp => hp.trans (swapIfInBounds_perm items i j)
  · exact ensures_pure (.refl _)
termination_by items.size - i
decreasing_by simp; omega

/-- **A shuffle permutes its items.** -/
theorem shuffle_perm (items : List α) : Ensures (γ := γ) (shuffle items) (·.Perm items) := by
  unfold shuffle
  split
  · exact ensures_pure (.refl _)
  · exact (shuffleFrom_perm items.toArray 0 .start).bind fun _ hp => ensures_pure hp

end Crowfoot.Draw
