import Crowfoot.Diagram.Reading
import Crowfoot.Proofs.Results
import Crowfoot.Proofs.Walk
import Crowfoot.Schema.Resolution
import Crowfoot.Schema.Search

/-!
# The walk is the recursion

The frames on the path of the walk are the visits that have begun and not ended. What is left of the
parents of a frame is what its visit has still to look at, so the walk from a path comes to where it
would be if the topmost visit had been made at once, with the rest of the path under it. This is an
induction on the recursion: the frame of a parent that is entered is gone when its visit is over.
-/

namespace Crowfoot

/-- A step does not change where the walk ends. -/
theorem Walk.run_step {s : Schema} {w w' : Walk} (h : Step s w w') : run s w = run s w' := by
  cases h with
  | finish => rw [run]
  | enter h =>
    rw [run]
    split <;> rename_i h'
    · rfl
    · exact absurd (h.symm.trans h') (by simp)
    · exact absurd (h.symm.trans h') (by simp)
  | close h =>
    rw [run]
    split <;> rename_i h'
    · exact absurd (h.symm.trans h') (by simp)
    · rfl
    · exact absurd (h.symm.trans h') (by simp)
  | skip h =>
    rw [run]
    split <;> rename_i h'
    · exact absurd (h.symm.trans h') (by simp)
    · exact absurd (h.symm.trans h') (by simp)
    · rfl

namespace Search

variable {s : Schema} {σ : Search} {child parent name : String}

/-- The state of the walk that has found the same, on a path. -/
def walk (σ : Search) (path : List Frame) : Walk :=
  ⟨σ.marks, path, σ.finished.reverse, σ.backEdges.reverse⟩

/-! ## The steps of the walk -/

theorem run_finish (σ : Search) (name : String) (path : List Frame) :
    Walk.run s (σ.walk (⟨name, []⟩ :: path)) = Walk.run s ((σ.finish name).walk path) := by
  have hdone : (σ.finished ++ [name]).reverse = name :: σ.finished.reverse :=
    List.reverse_concat
  unfold walk finish
  rw [hdone]
  exact Walk.run_step .finish

theorem run_enter (h : σ.marks[parent]? = none) (rest : List String) (path : List Frame) :
    Walk.run s (σ.walk (⟨child, parent :: rest⟩ :: path)) =
      Walk.run s ((σ.enter parent).walk (s.frame parent :: ⟨child, rest⟩ :: path)) :=
  Walk.run_step (.enter h)

theorem run_close (h : σ.marks[parent]? = some .entered) (rest : List String)
    (path : List Frame) :
    Walk.run s (σ.walk (⟨child, parent :: rest⟩ :: path)) =
      Walk.run s ((σ.close child parent).walk (⟨child, rest⟩ :: path)) := by
  have hback : (σ.backEdges ++ [(child, parent)]).reverse =
      (child, parent) :: σ.backEdges.reverse := List.reverse_concat
  unfold walk close
  rw [hback]
  exact Walk.run_step (.close h)

theorem run_skip (h : σ.marks[parent]? = some .finished) (rest : List String)
    (path : List Frame) :
    Walk.run s (σ.walk (⟨child, parent :: rest⟩ :: path)) =
      Walk.run s (σ.walk (⟨child, rest⟩ :: path)) :=
  Walk.run_step (.skip h)

/-! ## Visits -/

/-- **The walk leaves a frame when all that its visit looks at has been looked at.** -/
theorem run_lookAll (child : String) (parents : List String) (σ : Search) (path : List Frame) :
    Walk.run s (σ.walk (⟨child, parents⟩ :: path)) =
      Walk.run s (((lookAll s child parents σ).val.finish child).walk path) := by
  fun_induction lookAll s child parents σ generalizing path with
  | case1 child σ => exact run_finish σ child path
  | case2 child σ parent rest hp inner _ hinner _ outer _ houter ihinner ihrest =>
    rw [hinner] at ihinner
    rw [houter] at ihrest
    -- the inner visit is a frame on top, which the walk leaves before it goes on with this one
    rw [run_enter hp]
    exact (ihinner _).trans (ihrest path)
  | case3 child σ parent rest hp outer _ houter ih =>
    rw [houter] at ih
    rw [run_close hp]
    exact ih path
  | case4 child σ parent rest hp ih =>
    rw [run_skip hp]
    exact ih path

theorem run_visit (σ : Search) (name : String) (path : List Frame) :
    Walk.run s ((σ.enter name).walk (s.frame name :: path)) =
      Walk.run s ((visit s σ name).walk path) :=
  run_lookAll name (s.parents name) (σ.enter name) path

/-- To look at parents is to look at one after the other. -/
theorem lookAll_eq_foldl {v : Search → String → Search}
    (hvisit : ∀ σ name, name ∉ σ.marks →
      (lookAll s name (s.parents name) (σ.enter name)).val =
          (s.parents name).foldl (look v name) (σ.enter name) →
        v σ name = visit s σ name)
    (child : String) (parents : List String) (σ : Search) :
    (lookAll s child parents σ).val = parents.foldl (look v child) σ := by
  -- one case for each mark that a parent can bear, as for the walk
  fun_induction lookAll s child parents σ with
  | case1 child σ => rfl
  | case2 child σ parent rest hp inner _ hinner _ outer _ houter ihinner ihrest =>
    have hlook : look v child σ parent = inner.finish parent := by
      unfold look
      rw [hp]
      refine (hvisit σ parent (by simpa using hp) ihinner).trans ?_
      unfold visit
      rw [hinner]
    rw [houter] at ihrest
    rw [List.foldl_cons, hlook]
    exact ihrest
  | case3 child σ parent rest hp outer _ houter ih =>
    have hlook : look v child σ parent = σ.close child parent := by
      unfold look
      rw [hp]
    rw [houter] at ih
    rw [List.foldl_cons, hlook]
    exact ih
  | case4 child σ parent rest hp ih =>
    have hlook : look v child σ parent = σ := by
      unfold look
      rw [hp]
    rw [List.foldl_cons, hlook]
    exact ih

/-- **There is a function that visits by the recursion.** -/
theorem isVisit_visit (s : Schema) : IsVisit s (visit s) := by
  intro σ name _
  have hall := lookAll_eq_foldl (s := s) (v := visit s) (fun _ _ _ _ => rfl) name
    (s.parents name) (σ.enter name)
  rw [← hall]
  rfl

/-- **There is no other.** -/
theorem IsVisit.eq_visit {v : Search → String → Search} (h : IsVisit s v)
    (hnew : name ∉ σ.marks) : v σ name = visit s σ name := by
  have hall := lookAll_eq_foldl (s := s) (v := v)
    (fun σ name hnew hall => by rw [h σ name hnew, ← hall]; rfl) name (s.parents name)
    (σ.enter name)
  rw [h σ name hnew, ← hall]
  rfl

/-! ## All entities -/

/-- Between two visits the walk has found what the search has found. -/
theorem walk_visit (hv : IsVisit s v) (σ : Search) (root : String) :
    Walk.visit s (σ.walk []) root = (if root ∈ σ.marks then σ else v σ root).walk [] := by
  by_cases hroot : root ∈ σ.marks
  · rw [if_pos hroot]
    exact if_pos hroot
  · rw [if_neg hroot, hv.eq_visit hroot]
    have hrun : Walk.visit s (σ.walk []) root = Walk.run s ((visit s σ root).walk []) :=
      (if_neg hroot).trans (run_visit σ root [])
    rw [hrun, walk, Walk.run]

theorem foldl_visit (hv : IsVisit s v) (roots : List String) (σ : Search) :
    roots.foldl (Walk.visit s) (σ.walk []) =
      (roots.foldl (fun σ root => if root ∈ σ.marks then σ else v σ root) σ).walk [] := by
  induction roots generalizing σ with
  | nil => rfl
  | cons root roots ih => rw [List.foldl_cons, List.foldl_cons, walk_visit hv, ih]

end Search

namespace DependencyOrder

theorem ofSchema_of_isVisit {s : Schema} {v : Search → String → Search}
    (hv : Search.IsVisit s v) :
    ofSchema s = ⟨(Search.overall s v).finished, (Search.overall s v).backEdges⟩ := by
  have hwalk : s.entities.keys.foldl (Walk.visit s) Walk.start = (Search.overall s v).walk [] :=
    Search.foldl_visit hv s.entities.keys Search.start
  unfold ofSchema
  rw [hwalk]
  simp only [Search.walk, List.reverse_reverse]

/--
**The walk with a stack finds the post-order of the recursion.**

The names of the entities are gone through in ascending order. Some function visits by the
recursion: it enters an entity, looks at its parents one after the other, visiting one that is
unmarked, noting a back edge to one that the search is in, and passing over one that is finished,
and then it finishes the entity. With any such function the search has the entities and the back
edges of the order, in the same sequence.
-/
theorem ofSchema_postorder (s : Schema) :
    s.entities.keys.Pairwise (· < ·) ∧ (∀ name, name ∈ s.entities.keys ↔ name ∈ s.entities) ∧
      (∃ v, Search.IsVisit s v) ∧
      ∀ v, Search.IsVisit s v →
        (ofSchema s).entities = (Search.overall s v).finished ∧
          (ofSchema s).backEdges = (Search.overall s v).backEdges := by
  have hascending : s.entities.keys.Pairwise (· < ·) := by
    refine (Std.ExtTreeMap.ordered_keys (t := s.entities)).imp fun h => ?_
    exact compareOfLessAndEq_eq_lt.mp h
  refine ⟨hascending, fun _ => Std.ExtTreeMap.mem_keys, ⟨_, Search.isVisit_visit s⟩, fun v hv => ?_⟩
  rw [ofSchema_of_isVisit hv]
  exact ⟨rfl, rfl⟩

/-- Two entities share a parent, and one of them is the parent's parent. -/
theorem ofSchema_postorder_shared :
    ∃ s, Schema.resolve .synthesize
        (.ofText "Z ||--o\x7b A\nY ||--o\x7b A\nY ||--o\x7b Z\nA ||--o\x7b Y\n") = .ok s ∧
      Search.IsVisit s (Search.visit s) ∧
      (Search.overall s (Search.visit s)).finished = ["Y", "Z", "A"] ∧
      (Search.overall s (Search.visit s)).backEdges = [("Y", "A")] := by
  have heval : (Schema.resolve .synthesize
      (.ofText "Z ||--o\x7b A\nY ||--o\x7b A\nY ||--o\x7b Z\nA ||--o\x7b Y\n")).toOption.any
      (fun s => decide ((ofSchema s).entities = ["Y", "Z", "A"] ∧
        (ofSchema s).backEdges = [("Y", "A")])) = true := by
    decide +kernel
  obtain ⟨s, hs, htest⟩ := exists_ok_of_any heval
  obtain ⟨hentities, hback⟩ := of_decide_eq_true htest
  obtain ⟨_, _, _, hsame⟩ := ofSchema_postorder s
  obtain ⟨hfinished, hbackEdges⟩ := hsame _ (Search.isVisit_visit s)
  exact ⟨s, hs, Search.isVisit_visit s, hfinished.symm.trans hentities, hbackEdges.symm.trans hback⟩

end DependencyOrder

end Crowfoot
