import Crowfoot.Proofs.Topology

/-!
# Cycles are found exactly

A back edge closes a cycle: the walk finds its parent on the path to the child. For the other way
round no path has to be followed through the walk once more. A reference that is no back edge leads
to an earlier place in the order, so a path of such references never comes back to where it began,
and every cycle has a back edge on it.
-/

namespace Crowfoot

open Relation

namespace Schema

/-- References lead to the entity from one of the schema. -/
def Reachable (s : Schema) (x : String) : Prop := ∃ root ∈ s.entities, s.Reaches root x

/-- At least one foreign key, and a path of them, lead from the entity to itself. -/
def OnCycle (s : Schema) (x : String) : Prop := TransGen s.Refers x x

/-- The child has a foreign key to the parent, and the two are no back edge of the order. -/
def Follows (s : Schema) (child parent : String) : Prop :=
  s.Refers child parent ∧ (child, parent) ∉ (DependencyOrder.ofSchema s).backEdges

theorem refers_iff {s : Schema} {child parent : String} :
    s.Refers child parent ↔ ∃ k ∈ s.keysOf child, k.parent = parent := List.mem_map

end Schema

namespace DependencyOrder

/-! ## Places in the order -/

section

variable {o : DependencyOrder} {x y z : String}

theorem Precedes.irrefl (o : DependencyOrder) (x : String) : ¬ o.Precedes x x := by
  intro h
  obtain ⟨i, j, hi, hj, hlt⟩ := h
  have hij : i = j := Option.some.inj (hi.symm.trans hj)
  omega

theorem Precedes.trans (hxy : o.Precedes x y) (hyz : o.Precedes y z) : o.Precedes x z := by
  obtain ⟨i, j, hi, hj, hlt⟩ := hxy
  obtain ⟨j', k, hj', hk, hlt'⟩ := hyz
  have hjj : j = j' := Option.some.inj (hj.symm.trans hj')
  exact ⟨i, k, hi, hk, by omega⟩

theorem Precedes.left_mem (h : o.Precedes x y) : x ∈ o.entities := by
  obtain ⟨i, _, hi, _⟩ := h
  obtain ⟨hlt, he, _⟩ := List.idxOf?_eq_some_iff.mp hi
  exact he ▸ List.getElem_mem hlt

theorem hasCycles_iff_mem :
    o.hasCycles = true ↔ ∃ child parent, (child, parent) ∈ o.backEdges := by
  unfold hasCycles
  cases hb : o.backEdges with
  | nil => simp
  | cons e rest =>
    obtain ⟨child, parent⟩ := e
    exact ⟨fun _ => ⟨child, parent, List.mem_cons_self ..⟩, fun _ => rfl⟩

end

/-! ## Paths without back edges -/

variable {s : Schema}

/-- The end of a path without back edges stands before its beginning. -/
theorem precedes_of_follows {x y : String} (hx : x ∈ (ofSchema s).entities)
    (h : TransGen s.Follows x y) : (ofSchema s).Precedes y x := by
  induction h with
  | single hf => exact (precedes_ofSchema_iff hx hf.1).mpr hf.2
  | tail _ hf ih => exact Precedes.trans ((precedes_ofSchema_iff ih.left_mem hf.1).mpr hf.2) ih

/-- **Every cycle has a back edge on it.** -/
theorem not_follows_cycle {x : String} (hx : s.Reachable x) : ¬ TransGen s.Follows x x := by
  intro h
  have hmem : x ∈ (ofSchema s).entities := (mem_ofSchema_iff s x).mpr hx
  exact Precedes.irrefl _ x (precedes_of_follows hmem h)

theorem exists_backEdge_of_onCycle {x : String} (hx : s.Reachable x) (h : s.OnCycle x) :
    ∃ child parent, (child, parent) ∈ (ofSchema s).backEdges := by
  by_contra hnone
  have hall : ∀ child parent, s.Refers child parent → s.Follows child parent :=
    fun child parent hr => ⟨hr, fun hb => hnone ⟨child, parent, hb⟩⟩
  exact not_follows_cycle hx (TransGen.mono hall _ _ h)

/-- A back edge puts its child on a cycle that is reached from the schema. -/
theorem onCycle_of_backEdge {child parent : String}
    (hb : (child, parent) ∈ (ofSchema s).backEdges) : s.Reachable child ∧ s.OnCycle child := by
  obtain ⟨hrefers, hreaches, hchild, _⟩ := ofSchema_backEdge hb
  exact ⟨(mem_ofSchema_iff s child).mp hchild, TransGen.head' hrefers hreaches⟩

theorem backEdge_of_refers_self {x : String} (hx : s.Reachable x) (hr : s.Refers x x) :
    (x, x) ∈ (ofSchema s).backEdges := by
  by_contra hb
  exact not_follows_cycle hx (.single ⟨hr, hb⟩)

/--
**Cycles are reported if and only if there are any.**

Of any schema: the order has cycles exactly when some entity that is reached from the schema lies
on one. Each back edge is a foreign key of its child to its parent, and foreign keys lead from the
parent back to the child. A reference of a reached entity to itself is always among them, and no
cycle is without a back edge, wherever the walk came upon it.
-/
theorem hasCycles_exact (s : Schema) :
    ((ofSchema s).hasCycles = true ↔ ∃ x, s.Reachable x ∧ s.OnCycle x) ∧
    (∀ child parent, (child, parent) ∈ (ofSchema s).backEdges →
      (∃ k ∈ s.keysOf child, k.parent = parent) ∧ s.Reaches parent child) ∧
    (∀ x, s.Reachable x → (∃ k ∈ s.keysOf x, k.parent = x) → (x, x) ∈ (ofSchema s).backEdges) ∧
    ∀ x, s.Reachable x → ¬ TransGen s.Follows x x := by
  refine ⟨?_, fun child parent hb => ?_, fun x hx hk => ?_, fun x hx => not_follows_cycle hx⟩
  · rw [hasCycles_iff_mem]
    constructor
    · intro h
      obtain ⟨child, parent, hb⟩ := h
      exact ⟨child, onCycle_of_backEdge hb⟩
    · intro h
      obtain ⟨x, hx, hcycle⟩ := h
      exact exists_backEdge_of_onCycle hx hcycle
  · obtain ⟨hrefers, hreaches, _⟩ := ofSchema_backEdge hb
    exact ⟨Schema.refers_iff.mp hrefers, hreaches⟩
  · exact backEdge_of_refers_self hx (Schema.refers_iff.mpr hk)

/-- A cycle of three entities and an entity that refers to itself give a back edge each. -/
theorem hasCycles_exact_three :
    ∃ s, Schema.resolve .synthesize
        (.ofText "A ||--o\x7b B\nB ||--o\x7b C\nC ||--o\x7b A\nD ||--o\x7b D\n") = .ok s ∧
      (ofSchema s).hasCycles = true ∧ (∃ x, s.Reachable x ∧ s.OnCycle x) ∧
      ("B", "A") ∈ (ofSchema s).backEdges ∧ s.Reaches "A" "B" ∧
      s.Reachable "D" ∧ ⟨"D_id", "D", none⟩ ∈ s.keysOf "D" ∧
      ("D", "D") ∈ (ofSchema s).backEdges ∧ ¬ TransGen s.Follows "D" "D" := by
  have heval : (Schema.resolve .synthesize
      (.ofText "A ||--o\x7b B\nB ||--o\x7b C\nC ||--o\x7b A\nD ||--o\x7b D\n")).toOption.any
      (fun s => decide ((ofSchema s).hasCycles = true ∧ ("B", "A") ∈ (ofSchema s).backEdges ∧
        "D" ∈ s.entities ∧ ⟨"D_id", "D", none⟩ ∈ s.keysOf "D")) = true := by
    decide +kernel
  obtain ⟨s, hs, htest⟩ := exists_ok_of_any heval
  obtain ⟨hcycles, hback, hd, hkey⟩ := of_decide_eq_true htest
  obtain ⟨hiff, hsound, hself, hnone⟩ := hasCycles_exact s
  have hreach : s.Reachable "D" := ⟨"D", hd, .refl⟩
  exact ⟨s, hs, hcycles, hiff.mp hcycles, hback, (hsound "B" "A" hback).2, hreach, hkey,
    hself "D" hreach ⟨_, hkey, rfl⟩, hnone "D" hreach⟩

end DependencyOrder

end Crowfoot
