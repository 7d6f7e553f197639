import Crowfoot.Random.Generator

/-!
# Shuffling

A list is shuffled by swapping each item in turn with a random item at or before it.
Several of the indices are taken from one random number: below `a * (a + 1) * … * b`
there is one number for every sequence of indices below `a`, `a + 1`, …, `b`.
-/

namespace Crowfoot

/-- Random indices, the next one at most `bound`. -/
structure Indices where
  bound : Nat
  /-- What is left of the random number. -/
  chunk : Nat
  /-- How many more indices it holds. -/
  remaining : Nat

namespace Indices

/-- The first index is zero and takes no random number. -/
def start : Indices := ⟨0, 0, 1⟩

/--
The product with as many of the factors `factor`, `factor + 1`, … as keep it below
`2 ^ 32`, and the first factor that is not in it.
-/
def extend (product factor : Nat) : Nat × Nat :=
  if product < product * factor ∧ product * factor < wordCount 32 then
    extend (product * factor) (factor + 1)
  else (product, factor)
termination_by wordCount 32 - product
decreasing_by omega

variable {γ : Type} [Generator γ]

/-- The indices with a random number that holds at least one. -/
def refill (s : Indices) : Draw γ Indices :=
  if s.remaining = 0 then do
    let (product, factor) := extend (s.bound + 1) (s.bound + 2)
    return { s with chunk := ← Draw.below32 product, remaining := factor - (s.bound + 1) }
  else return s

/-- The next index, and the indices after it. -/
def next (s : Indices) : Draw γ (Nat × Indices) := do
  let s ← s.refill
  -- the last index in a random number is what is left of it
  if s.remaining = 1 then return (s.chunk, ⟨s.bound + 1, s.chunk, 0⟩)
  else
    return (s.chunk % (s.bound + 1),
      ⟨s.bound + 1, s.chunk / (s.bound + 1), s.remaining - 1⟩)

end Indices

namespace Draw

variable {γ α : Type} [Generator γ]

/-- The items with each one from place `i` on swapped with one at or before it. -/
def shuffleFrom (items : Array α) (i : Nat) (s : Indices) : Draw γ (Array α) :=
  if i < items.size then do
    let (j, s) ← s.next
    shuffleFrom (items.swapIfInBounds i j) (i + 1) s
  else return items
termination_by items.size - i
decreasing_by simp; omega

/-- The items of a list in random order. Nothing is drawn for fewer than two items. -/
def shuffle (items : List α) : Draw γ (List α) :=
  if items.length ≤ 1 then return items
  else return (← shuffleFrom items.toArray 0 .start).toList

end Draw

end Crowfoot
