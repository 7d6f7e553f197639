import Crowfoot.Random.Generator

/-!
# A counting generator

The words are the mixed bits of a counter that grows by a fixed odd number. Words that
are given in advance come first. Each draw takes one word; a draw of 32 bits takes its
lower half.
-/

namespace Crowfoot

/-- The words given in advance, and the counter. -/
structure SplitMix where
  leading : List UInt64
  counter : UInt64
  deriving Repr

namespace SplitMix

/-- The mixed bits of a counter. -/
def mix (counter : UInt64) : UInt64 :=
  let z := (counter ^^^ (counter >>> 30)) * 0xBF58476D1CE4E5B9
  let z := (z ^^^ (z >>> 27)) * 0x94D049BB133111EB
  z ^^^ (z >>> 31)

/-- The next word. -/
def next (g : SplitMix) : UInt64 × SplitMix :=
  match g.leading with
  | w :: rest => (w, { g with leading := rest })
  | [] =>
    let counter := g.counter + 0x9E3779B97F4A7C15
    (mix counter, { g with counter })

instance : Generator SplitMix where
  draw32 g := let (w, g) := g.next; (w.toUInt32, g)
  draw64 := next

end SplitMix

end Crowfoot
