import Crowfoot.Diagram.Reading
import Crowfoot.Proofs.Linked
import Crowfoot.Proofs.Walk
import Mathlib.Data.List.Perm.Basic

/-!
# The order is topological up to its back edges

`Walk.Rested` is carried from the first root to the last. What is left when all roots
have been visited is read off here: the order holds exactly the entities that references
lead to from the schema, each once, and a parent stands before its child unless the
reference is a back edge.
-/

namespace Crowfoot.DependencyOrder

open Relation

/-- The one entity stands in the order strictly before the other. -/
def Precedes (o : DependencyOrder) (first second : String) : Prop :=
  ∃ i j, o.position? first = some i ∧ o.position? second = some j ∧ i < j

/-- What precedes an entity is what stands before it in the list. -/
theorem precedes_iff {o : DependencyOrder} {before after : List String} {first second : String}
    (hnd : o.entities.Nodup) (ho : o.entities = before ++ second :: after) :
    o.Precedes first second ↔ first ∈ before := by
  unfold Precedes position?
  rw [ho] at hnd ⊢
  have hsecond : second ∉ before := by
    intro hm
    exact (List.nodup_append.mp hnd).2.2 second hm second (List.mem_cons_self ..) rfl
  -- a list without duplicates has the second entity at the one place only
  have hj : (before ++ second :: after).idxOf? second = some before.length := by
    rw [List.idxOf?_eq_some_iff]
    refine ⟨by simp, by simp, fun j hj he => hsecond ?_⟩
    rw [List.getElem_append_left hj] at he
    exact he ▸ List.getElem_mem hj
  rw [hj]
  constructor
  · intro h
    obtain ⟨i, j, hi, hj', hlt⟩ := h
    obtain ⟨hlen, he, _⟩ := List.idxOf?_eq_some_iff.mp hi
    obtain rfl := Option.some.inj hj'
    rw [List.getElem_append_left hlt] at he
    exact he ▸ List.getElem_mem hlt
  · intro hm
    obtain ⟨i, hi, he⟩ := List.mem_iff_getElem.mp hm
    refine ⟨i, before.length, ?_, rfl, hi⟩
    rw [List.idxOf?_eq_some_iff]
    refine ⟨by simp; omega, by rw [List.getElem_append_left hi, he], fun j hj' he' => ?_⟩
    have hbefore : before.Nodup := (List.nodup_append.mp hnd).1
    rw [List.getElem_append_left (by omega), ← he] at he'
    exact absurd ((List.getElem_inj hbefore).mp he') (by omega)

/-! ## The walk from all roots -/

/-- The order is what the walk leaves when it has visited every entity of the schema. -/
theorem ofSchema_walk (s : Schema) :
    ∃ w : Walk, Walk.Rested s w ∧ (∀ root ∈ s.entities, root ∈ w.finished)
      ∧ (ofSchema s).entities = w.finished.reverse
      ∧ (ofSchema s).backEdges = w.backEdges.reverse := by
  obtain ⟨hrested, hroots, _⟩ := @Walk.rested_foldl_visit s s.entities.keys _
    (Walk.rested_start s) fun root h => Std.ExtTreeMap.mem_keys.mp h
  refine ⟨_, hrested, fun root h => ?_, rfl, rfl⟩
  exact hrested.mem_marks.mp (hroots root (Std.ExtTreeMap.mem_keys.mpr h))

theorem ofSchema_nodup (s : Schema) : (ofSchema s).entities.Nodup := by
  obtain ⟨w, h, _, hentities, _⟩ := ofSchema_walk s
  rw [hentities]
  exact List.pairwise_reverse.mpr (h.sound.finished_nodup.imp Ne.symm)

/-- Whatever an ordered entity refers to is in the order too. -/
theorem ofSchema_refers {s : Schema} {child parent : String}
    (hchild : child ∈ (ofSchema s).entities) (hr : s.Refers child parent) :
    parent ∈ (ofSchema s).entities := by
  obtain ⟨w, h, _, hentities, _⟩ := ofSchema_walk s
  rw [hentities, List.mem_reverse] at hchild ⊢
  obtain ⟨newer, older, hsplit⟩ := List.append_of_mem hchild
  have hsettled := Walk.settled_split h.sound.settled hsplit parent hr
  by_cases hb : (child, parent) ∈ w.backEdges
  · exact h.mem_marks.mp (h.sound.closing child parent hb).2.2.2
  · -- without a back edge it was finished before the child
    rw [hsplit]
    exact List.mem_append_right _ (List.mem_cons_of_mem _ (hsettled.mpr hb))

/-- **The order holds what the schema holds and what that depends on.** -/
theorem mem_ofSchema_iff (s : Schema) (x : String) :
    x ∈ (ofSchema s).entities ↔ ∃ root ∈ s.entities, s.Reaches root x := by
  obtain ⟨w, h, hroots, hentities, _⟩ := ofSchema_walk s
  constructor
  · intro hx
    rw [hentities, List.mem_reverse] at hx
    exact h.sound.rooted x (h.mem_marks.mpr hx)
  · intro hx
    obtain ⟨root, hroot, hreach⟩ := hx
    induction hreach with
    | refl =>
      rw [hentities, List.mem_reverse]
      exact hroots root hroot
    | tail _ hr ih => exact ofSchema_refers ih hr

/-- **A parent precedes its child unless the reference is a back edge.** -/
theorem precedes_ofSchema_iff {s : Schema} {child parent : String}
    (hchild : child ∈ (ofSchema s).entities) (hr : s.Refers child parent) :
    (ofSchema s).Precedes parent child ↔ (child, parent) ∉ (ofSchema s).backEdges := by
  obtain ⟨w, h, _, hentities, hback⟩ := ofSchema_walk s
  rw [hentities, List.mem_reverse] at hchild
  obtain ⟨newer, older, hsplit⟩ := List.append_of_mem hchild
  have horder : (ofSchema s).entities = older.reverse ++ child :: newer.reverse := by
    rw [hentities, hsplit]
    simp
  rw [precedes_iff (ofSchema_nodup s) horder, hback, List.mem_reverse, List.mem_reverse]
  exact Walk.settled_split h.sound.settled hsplit parent hr

/-- A back edge is a reference of an ordered child to an ordered parent that depends on it. -/
theorem ofSchema_backEdge {s : Schema} {child parent : String}
    (hb : (child, parent) ∈ (ofSchema s).backEdges) :
    s.Refers child parent ∧ s.Reaches parent child ∧ child ∈ (ofSchema s).entities
      ∧ parent ∈ (ofSchema s).entities := by
  obtain ⟨w, h, _, hentities, hback⟩ := ofSchema_walk s
  rw [hback, List.mem_reverse] at hb
  obtain ⟨h1, h2, h3, h4⟩ := h.sound.closing child parent hb
  rw [hentities, List.mem_reverse, List.mem_reverse]
  exact ⟨h1, h2, h.mem_marks.mp h3, h.mem_marks.mp h4⟩

/-! ## The order of a resolved schema -/

/-- References do not lead out of a schema in which they fit the entities. -/
theorem reaches_mem {s : Schema} (h : s.Linked) {root x : String} (hroot : root ∈ s.entities)
    (hreach : s.Reaches root x) : x ∈ s.entities := by
  induction hreach with
  | refl => exact hroot
  | tail _ hr _ =>
    obtain ⟨k, hk, rfl⟩ := List.mem_map.mp hr
    exact (h.ends _ k hk).2

theorem mem_ofSchema_iff_of_linked {s : Schema} (h : s.Linked) (x : String) :
    x ∈ (ofSchema s).entities ↔ x ∈ s.entities := by
  rw [mem_ofSchema_iff]
  constructor
  · intro hx
    obtain ⟨root, hroot, hreach⟩ := hx
    exact reaches_mem h hroot hreach
  · intro hx
    exact ⟨x, hx, .refl⟩

theorem ofSchema_perm_keys {s : Schema} (h : s.Linked) :
    (ofSchema s).entities.Perm s.entities.keys := by
  rw [List.perm_ext_iff_of_nodup (ofSchema_nodup s) Std.ExtTreeMap.nodup_keys]
  intro x
  rw [mem_ofSchema_iff_of_linked h, Std.ExtTreeMap.mem_keys]

/--
**The order is complete, and topological exactly up to its back edges.**

Of any schema: no walk takes infinitely many steps and each run ends with an empty path.
The order has no entity twice and holds exactly the entities of the schema and those that
references lead to, so for a resolved schema it is its entities rearranged. A parent stands
strictly before a child with a foreign key to it if and only if the two are no back edge.
-/
theorem ofSchema_topological (s : Schema) :
    (WellFounded (fun w' w => Walk.Step s w w') ∧
      ∀ w, ReflTransGen (Walk.Step s) w (Walk.run s w) ∧ (Walk.run s w).path = []) ∧
    (ofSchema s).entities.Nodup ∧
    (∀ x, x ∈ (ofSchema s).entities ↔ ∃ root ∈ s.entities, s.Reaches root x) ∧
    (∀ mode d, Schema.resolve mode d = .ok s → (ofSchema s).entities.Perm s.entities.keys) ∧
    ∀ child ∈ (ofSchema s).entities, ∀ k ∈ s.keysOf child,
      (ofSchema s).Precedes k.parent child ↔ (child, k.parent) ∉ (ofSchema s).backEdges := by
  refine ⟨⟨Walk.step_wellFounded s, fun w => ⟨Walk.run_steps s w, Walk.run_path s w⟩⟩,
    ofSchema_nodup s, mem_ofSchema_iff s, fun mode d h => ?_, fun child hchild k hk => ?_⟩
  · exact ofSchema_perm_keys (Schema.linked_resolve h)
  · exact precedes_ofSchema_iff hchild (List.mem_map_of_mem hk)

/-- Two entities that refer to each other: one reference is in order, the other closes the cycle. -/
theorem ofSchema_topological_cycle :
    ∃ s, Schema.resolve .synthesize (.ofText "A ||--o\x7b B\nB ||--o\x7b A\n") = .ok s ∧
      (ofSchema s).entities.Perm s.entities.keys ∧
      "A" ∈ (ofSchema s).entities ∧ ⟨"B_id", "B", none⟩ ∈ s.keysOf "A" ∧
      ((ofSchema s).Precedes "B" "A" ↔ ("A", "B") ∉ (ofSchema s).backEdges) ∧
      "B" ∈ (ofSchema s).entities ∧ ⟨"A_id", "A", none⟩ ∈ s.keysOf "B" ∧
      ((ofSchema s).Precedes "A" "B" ↔ ("B", "A") ∉ (ofSchema s).backEdges) := by
  have heval : (Schema.resolve .synthesize (.ofText "A ||--o\x7b B\nB ||--o\x7b A\n")).toOption.any
      (fun s => decide ("A" ∈ (ofSchema s).entities ∧ ⟨"B_id", "B", none⟩ ∈ s.keysOf "A" ∧
        "B" ∈ (ofSchema s).entities ∧ ⟨"A_id", "A", none⟩ ∈ s.keysOf "B")) = true := by
    decide +kernel
  obtain ⟨s, hs, htest⟩ := exists_ok_of_any heval
  obtain ⟨ha, hka, hb, hkb⟩ := of_decide_eq_true htest
  obtain ⟨_, _, _, hperm, hiff⟩ := ofSchema_topological s
  exact ⟨s, hs, hperm _ _ hs, ha, hka, hiff "A" ha _ hka, hb, hkb, hiff "B" hb _ hkb⟩

end Crowfoot.DependencyOrder
