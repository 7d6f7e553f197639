import Std.Data.ExtTreeMap

/-!
# Things by name

The entities of a diagram and the keys of a schema are kept by name and listed in the
order of their names, code point by code point. Two such tables are equal when they
give the same answer for every name.
-/

namespace Crowfoot

/-- A finite table of things by name, in the order of the names. -/
abbrev Named (α : Type) := Std.ExtTreeMap String α

namespace Named

variable {α : Type}

theorem getElem?_insert (t : Named α) (name other : String) (a : α) :
    (t.insert name a)[other]? = if name = other then some a else t[other]? := by
  rw [Std.ExtTreeMap.getElem?_insert]
  simp only [Std.LawfulEqCmp.compare_eq_iff_eq]

theorem mem_iff_getElem? (t : Named α) (name : String) : name ∈ t ↔ ∃ a, t[name]? = some a := by
  rw [Std.ExtTreeMap.mem_iff_isSome_getElem?, Option.isSome_iff_exists]

/-- Nothing leaves a table when something is put into it. -/
theorem mem_insert_of_mem (t : Named α) (name : String) (a : α) :
    ∀ other ∈ t, other ∈ t.insert name a :=
  fun _ h => Std.ExtTreeMap.mem_insert.mpr (Or.inr h)

end Named

end Crowfoot
