/-!
# Random choices

A generator gives words of 32 and of 64 random bits. The choices below use it through
these two operations only, so what is shown of them holds for every generator, also for
one that always gives the same word.
-/

namespace Crowfoot

/-- A source of random words. -/
class Generator (γ : Type) where
  /-- The next word of 32 bits. -/
  draw32 : γ → UInt32 × γ
  /-- The next word of 64 bits. -/
  draw64 : γ → UInt64 × γ

/-- How many words of that many bits there are. -/
def wordCount (bits : Nat) : Nat := Nat.pow 2 bits

/-- A computation that draws random words. -/
abbrev Draw (γ : Type) := StateM γ

namespace Draw

variable {γ α : Type} [Generator γ]

/-- A number below `2 ^ 32`. -/
def word32 : Draw γ Nat := fun g => let (w, g) := Generator.draw32 g; (w.toNat, g)

/-- A number below `2 ^ 64`. -/
def word64 : Draw γ Nat := fun g => let (w, g) := Generator.draw64 g; (w.toNat, g)

/--
A number below `n`, from words of that many bits. A word times `n` is split at the
width of a word, and the upper part is the number. Only if the lower part is so large
that more bits could carry into the upper part is a second word taken for them.
-/
def scaled (word : Draw γ Nat) (bits n : Nat) : Draw γ Nat := do
  let product := (← word) * n
  let high := product / wordCount bits
  let low := product % wordCount bits
  if wordCount bits - n < low then
    let carry := (← word) * n / wordCount bits
    return if wordCount bits ≤ low + carry then high + 1 else high
  else
    return high

/-- A number below `n`, from words of 32 bits. -/
def below32 (n : Nat) : Draw γ Nat := scaled word32 32 n

/-- A number below `n`, from words of 64 bits. -/
def below64 (n : Nat) : Draw γ Nat := scaled word64 64 n

/-- A whole number from `low` to `high`, both included, from words of 64 bits. -/
def between (low high : Int) : Draw γ Int := do
  return low + (← below64 (high - low + 1).toNat)

/-- A number from `low` to `high`, both included, from words of 32 bits. -/
def between32 (low high : Nat) : Draw γ Nat := do
  return low + (← below32 (high - low + 1))

/-- An item of a list. An empty list has none, and nothing is drawn for it. -/
def choose (items : List α) : Draw γ (Option α) :=
  if items.isEmpty then return none else return items[← below32 items.length]?

end Draw

end Crowfoot
