import Crowfoot.Random.ChaCha
import Crowfoot.Random.SplitMix

/-!
# Generators to choose from

One type for the generators of this library, for a program that decides while it runs
which of them to use.
-/

namespace Crowfoot

/-- One of the generators. -/
inductive Supply
  | splitMix (g : SplitMix)
  | chaCha (g : ChaCha)
  deriving Repr

instance : Generator Supply where
  draw32
    | .splitMix g => let (w, g) := Generator.draw32 g; (w, .splitMix g)
    | .chaCha g => let (w, g) := Generator.draw32 g; (w, .chaCha g)
  draw64
    | .splitMix g => let (w, g) := Generator.draw64 g; (w, .splitMix g)
    | .chaCha g => let (w, g) := Generator.draw64 g; (w, .chaCha g)

end Crowfoot
