import Crowfoot.Schema.Order
import Mathlib.Data.List.Chain
import Mathlib.Logic.Relation

/-!
# What the walk keeps true

The marks of a walk say where an entity is: on the path, in the order, or nowhere yet.
The path is a chain of references, so a parent that is found on it closes a cycle. Of
the parents a frame has looked at, those at or below it on the path are exactly its back
edges, and all others are in the order before the frame's entity can follow them.

That last sentence is the invariant which makes the order topological up to its back
edges: `Settled` is what becomes of `Examined` when a frame leaves the path.
-/

namespace Crowfoot

open Relation

/-- The child has a foreign key to the parent. -/
def Schema.Refers (s : Schema) (child parent : String) : Prop := parent ∈ s.parents child

/-- A path of foreign keys, perhaps an empty one, leads from one entity to the other. -/
def Schema.Reaches (s : Schema) : String → String → Prop := ReflTransGen s.Refers

namespace Walk

/-! ## A run is a sequence of steps -/

theorem run_steps (s : Schema) (w : Walk) : ReflTransGen (Step s) w (run s w) := by
  fun_induction run s w with
  | case1 => exact .refl
  | case2 _ _ _ _ _ ih => exact .head .finish ih
  | case3 _ _ _ _ _ _ _ h ih => exact .head (.enter h) ih
  | case4 _ _ _ _ _ _ _ h ih => exact .head (.close h) ih
  | case5 _ _ _ _ _ _ _ h ih => exact .head (.skip h) ih

theorem run_path (s : Schema) (w : Walk) : (run s w).path = [] := by
  fun_induction run s w with
  | case1 => rfl
  | case2 _ _ _ _ _ ih => exact ih
  | case3 _ _ _ _ _ _ _ _ ih => exact ih
  | case4 _ _ _ _ _ _ _ _ ih => exact ih
  | case5 _ _ _ _ _ _ _ _ ih => exact ih

/-- No walk takes infinitely many steps. -/
theorem step_wellFounded (s : Schema) : WellFounded fun w' w => Step s w w' :=
  Subrelation.wf (fun h => h.work_lt) (InvImage.wf (work s) Nat.lt_wfRel.wf)

/-- A mark is never removed. -/
theorem Step.mem_marks {s : Schema} {w w' : Walk} (h : Step s w w') {x : String}
    (hx : x ∈ w.marks) : x ∈ w'.marks := by
  cases h with
  | finish => exact Std.ExtTreeMap.mem_insert.mpr (Or.inr hx)
  | enter _ => exact Std.ExtTreeMap.mem_insert.mpr (Or.inr hx)
  | close _ => exact hx
  | skip _ => exact hx

theorem steps_mem_marks {s : Schema} {w w' : Walk} (h : ReflTransGen (Step s) w w') {x : String}
    (hx : x ∈ w.marks) : x ∈ w'.marks := by
  induction h with
  | refl => exact hx
  | tail _ hs ih => exact hs.mem_marks ih

/-! ## The invariant -/

/--
The frames of a path have looked at a first part of their entity's parents. All these are
marked, and a back edge leads exactly to those at or below the frame.
-/
def Examined (s : Schema) (marks : Named Mark) (back : List (String × String)) :
    List Frame → Prop
  | [] => True
  | f :: below =>
    (∃ seen, s.parents f.entity = seen ++ f.parents ∧ (∀ p ∈ seen, p ∈ marks) ∧
      ∀ p, (f.entity, p) ∈ back ↔ p ∈ seen ∧ p ∈ (f :: below).map Frame.entity) ∧
    Examined s marks back below

/-- Of an entity's parents exactly those without a back edge were finished before it. -/
def Settled (s : Schema) (back : List (String × String)) : List String → Prop
  | [] => True
  | c :: older => (∀ p ∈ s.parents c, p ∈ older ↔ (c, p) ∉ back) ∧ Settled s back older

/-- The invariant of the walk. -/
structure Sound (s : Schema) (w : Walk) : Prop where
  /-- The entities on the path are marked as entered. -/
  entered : ∀ x, w.marks[x]? = some .entered ↔ x ∈ w.path.map Frame.entity
  /-- The entities in the order are marked as finished. -/
  finished : ∀ x, w.marks[x]? = some .finished ↔ x ∈ w.finished
  path_nodup : (w.path.map Frame.entity).Nodup
  finished_nodup : w.finished.Nodup
  /-- Each entity on the path is a parent of the one below it. -/
  chain : (w.path.map Frame.entity).IsChain fun upper lower => s.Refers lower upper
  examined : Examined s w.marks w.backEdges w.path
  settled : Settled s w.backEdges w.finished
  /-- A back edge is a reference that closes a cycle among marked entities. -/
  closing : ∀ c p, (c, p) ∈ w.backEdges →
    s.Refers c p ∧ s.Reaches p c ∧ c ∈ w.marks ∧ p ∈ w.marks
  /-- The walk goes nowhere but along references from the entities of the schema. -/
  rooted : ∀ x ∈ w.marks, ∃ root ∈ s.entities, s.Reaches root x

theorem sound_start (s : Schema) : Sound s start where
  entered := by intro x; simp [start]
  finished := by intro x; simp [start]
  path_nodup := List.nodup_nil
  finished_nodup := List.nodup_nil
  chain := List.isChain_nil
  examined := trivial
  settled := trivial
  closing := by intro c p h; simp [start] at h
  rooted := by intro x h; simp [start] at h

/-! ## What the invariant says about marks -/

section

variable {s : Schema} {w : Walk}

theorem Sound.mem_marks (h : Sound s w) {x : String} :
    x ∈ w.marks ↔ x ∈ w.path.map Frame.entity ∨ x ∈ w.finished := by
  rw [Named.mem_iff_getElem?, ← h.entered, ← h.finished]
  constructor
  · intro hx
    obtain ⟨m, hm⟩ := hx
    cases m with
    | entered => exact Or.inl hm
    | finished => exact Or.inr hm
  · intro hm
    rcases hm with hm | hm
    · exact ⟨_, hm⟩
    · exact ⟨_, hm⟩

theorem Sound.not_finished (h : Sound s w) {x : String} (hx : x ∈ w.path.map Frame.entity) :
    x ∉ w.finished := by
  intro hf
  have h1 := (h.entered x).mpr hx
  have h2 := (h.finished x).mpr hf
  rw [h1] at h2
  exact absurd h2 (by simp)

end

/-! ## Frames and finished entities under a step -/

section

variable {s : Schema} {marks marks' : Named Mark} {back : List (String × String)}

theorem examined_mono (hm : ∀ x ∈ marks, x ∈ marks') {path : List Frame}
    (h : Examined s marks back path) : Examined s marks' back path := by
  induction path with
  | nil => trivial
  | cons f below ih =>
    obtain ⟨⟨seen, hseen, hmarked, hback⟩, hbelow⟩ := h
    exact ⟨⟨seen, hseen, fun p hp => hm p (hmarked p hp), hback⟩, ih hbelow⟩

/-- A new back edge of an entity above a path does not matter to the path. -/
theorem examined_back {name parent : String} {path : List Frame}
    (hname : name ∉ path.map Frame.entity) (h : Examined s marks back path) :
    Examined s marks ((name, parent) :: back) path := by
  induction path with
  | nil => trivial
  | cons f below ih =>
    obtain ⟨⟨seen, hseen, hmarked, hback⟩, hbelow⟩ := h
    simp only [List.map_cons, List.mem_cons, not_or] at hname
    refine ⟨⟨seen, hseen, hmarked, fun p => ?_⟩, ih hname.2 hbelow⟩
    rw [List.mem_cons, ← hback p]
    have hne : (f.entity, p) ≠ (name, parent) := fun he => hname.1 (congrArg Prod.fst he).symm
    simp [hne]

/-- A marked parent that is not on the path needs no back edge. -/
theorem examined_look {name parent : String} {rest : List String} {path : List Frame}
    (h : Examined s marks back (⟨name, parent :: rest⟩ :: path)) (hmarked : parent ∈ marks)
    (hpath : parent ∉ name :: path.map Frame.entity) :
    Examined s marks back (⟨name, rest⟩ :: path) := by
  obtain ⟨⟨seen, hseen, hall, hback⟩, hbelow⟩ := h
  refine ⟨⟨seen ++ [parent], by simpa using hseen, fun p hp => ?_, fun p => ?_⟩, hbelow⟩
  · rcases List.mem_append.mp hp with hp | hp
    · exact hall p hp
    · exact List.mem_singleton.mp hp ▸ hmarked
  · rw [hback p, List.mem_append, List.mem_singleton]
    constructor
    · intro hp
      exact ⟨Or.inl hp.1, hp.2⟩
    · intro hp
      obtain ⟨h1 | rfl, h2⟩ := hp
      · exact ⟨h1, h2⟩
      · -- the parent is not on the path, so it closes no cycle
        exact absurd h2 hpath

/-- A back edge of an entity that is not finished does not matter to the order. -/
theorem settled_back {name parent : String} {done : List String} (hname : name ∉ done)
    (h : Settled s back done) : Settled s ((name, parent) :: back) done := by
  induction done with
  | nil => trivial
  | cons c older ih =>
    obtain ⟨hc, holder⟩ := h
    simp only [List.mem_cons, not_or] at hname
    refine ⟨fun p hp => ?_, ih hname.2 holder⟩
    have hne : (c, p) ≠ (name, parent) := fun he => hname.1 (congrArg Prod.fst he).symm
    rw [hc p hp, List.mem_cons]
    simp [hne]

/-- What holds when an entity is finished still holds of its place in the order. -/
theorem settled_split {done newer older : List String} {c : String} (h : Settled s back done)
    (hd : done = newer ++ c :: older) : ∀ p ∈ s.parents c, p ∈ older ↔ (c, p) ∉ back := by
  subst hd
  induction newer with
  | nil => exact h.1
  | cons d newer ih => exact ih h.2

/-- The top of a path can be reached from every entity on it. -/
theorem reaches_top {top : String} {rest : List String}
    (h : (top :: rest).IsChain fun upper lower => s.Refers lower upper) :
    ∀ x ∈ top :: rest, s.Reaches x top := by
  induction rest generalizing top with
  | nil =>
    intro x hx
    rw [List.mem_singleton.mp hx]
    exact .refl
  | cons below rest ih =>
    rw [List.isChain_cons_cons] at h
    intro x hx
    rcases List.mem_cons.mp hx with rfl | hx
    · exact .refl
    · exact (ih h.2 x hx).tail h.1

end

/-! ## Every step keeps the invariant -/

/-- A mark that is set changes what is known of its entity only. -/
theorem mark_insert_iff {marks : Named Mark} {x y : String} {m n : Mark} :
    (marks.insert x m)[y]? = some n ↔ if x = y then m = n else marks[y]? = some n := by
  rw [Named.getElem?_insert]
  split
  · exact Option.some_inj
  · exact Iff.rfl

theorem rooted_insert {s : Schema} {marks : Named Mark} {x : String} {m : Mark}
    (h : ∀ y ∈ marks, ∃ root ∈ s.entities, s.Reaches root y)
    (hx : ∃ root ∈ s.entities, s.Reaches root x) :
    ∀ y ∈ marks.insert x m, ∃ root ∈ s.entities, s.Reaches root y := by
  intro y hy
  rcases Std.ExtTreeMap.mem_insert.mp hy with he | hy
  · rw [← Std.LawfulEqCmp.eq_of_compare he]
    exact hx
  · exact h y hy

section

variable {s : Schema} {marks : Named Mark} {name parent : String} {rest : List String}
  {path : List Frame} {done : List String} {back : List (String × String)}

/-- **An entity that has looked at all its parents may be finished.** -/
theorem sound_finish (h : Sound s ⟨marks, ⟨name, []⟩ :: path, done, back⟩) :
    Sound s ⟨marks.insert name .finished, path, name :: done, back⟩ := by
  have hnd := List.nodup_cons.mp h.path_nodup
  have hnew : name ∉ done := h.not_finished (List.mem_cons_self ..)
  have hgrow : ∀ x ∈ marks, x ∈ marks.insert name .finished :=
    fun x hx => Std.ExtTreeMap.mem_insert.mpr (Or.inr hx)
  have hname : name ∈ marks := h.mem_marks.mpr (Or.inl (List.mem_cons_self ..))
  refine ⟨fun x => ?_, fun x => ?_, hnd.2, List.nodup_cons.mpr ⟨hnew, h.finished_nodup⟩,
    h.chain.tail, examined_mono hgrow h.examined.2, ⟨fun p hp => ?_, h.settled⟩, fun c p hcp => ?_,
    rooted_insert h.rooted (h.rooted name hname)⟩
  · rw [mark_insert_iff]
    split
    · rename_i he
      subst he
      exact ⟨fun hm => absurd hm (by simp), fun hm => absurd hm hnd.1⟩
    · rename_i hne
      rw [h.entered, List.map_cons, List.mem_cons]
      exact or_iff_right fun he => hne he.symm
  · rw [mark_insert_iff, List.mem_cons]
    split
    · rename_i he
      exact ⟨fun _ => Or.inl he.symm, fun _ => rfl⟩
    · rename_i hne
      rw [h.finished]
      exact (or_iff_right fun he => hne he.symm).symm
  · -- all parents were looked at, so each is in the order or gave a back edge
    obtain ⟨⟨seen, hseen, hmarked, hback⟩, _⟩ := h.examined
    have hp' : p ∈ seen := by
      have hall : s.parents name = seen := by simpa using hseen
      exact hall ▸ hp
    rw [hback p]
    constructor
    · intro hdone hboth
      exact h.not_finished hboth.2 hdone
    · intro hno
      rcases h.mem_marks.mp (hmarked p hp') with hpath | hdone
      · exact absurd ⟨hp', hpath⟩ hno
      · exact hdone
  · obtain ⟨h1, h2, h3, h4⟩ := h.closing c p hcp
    exact ⟨h1, h2, hgrow c h3, hgrow p h4⟩

/-- An unseen entity may be put on the path, if the path leads to it. -/
theorem sound_push (h : Sound s ⟨marks, path, done, back⟩) {x : String} (hnew : x ∉ marks)
    (hchain : (x :: path.map Frame.entity).IsChain fun upper lower => s.Refers lower upper)
    (hrooted : ∃ root ∈ s.entities, s.Reaches root x) :
    Sound s ⟨marks.insert x .entered, s.frame x :: path, done, back⟩ := by
  have hpath : x ∉ path.map Frame.entity := fun hm => hnew (h.mem_marks.mpr (Or.inl hm))
  have hdone : x ∉ done := fun hm => hnew (h.mem_marks.mpr (Or.inr hm))
  have hgrow : ∀ y ∈ marks, y ∈ marks.insert x .entered :=
    fun y hy => Std.ExtTreeMap.mem_insert.mpr (Or.inr hy)
  refine ⟨fun y => ?_, fun y => ?_, List.nodup_cons.mpr ⟨hpath, h.path_nodup⟩, h.finished_nodup,
    hchain, ⟨?_, examined_mono hgrow h.examined⟩, h.settled, fun c p hcp => ?_,
    rooted_insert h.rooted hrooted⟩
  · rw [mark_insert_iff, List.map_cons, List.mem_cons]
    split
    · rename_i he
      exact ⟨fun _ => Or.inl he.symm, fun _ => rfl⟩
    · rename_i hne
      rw [h.entered]
      exact (or_iff_right fun he => hne he.symm).symm
  · rw [mark_insert_iff]
    split
    · rename_i he
      subst he
      exact ⟨fun hm => absurd hm (by simp), fun hm => absurd hm hdone⟩
    · exact h.finished y
  · -- the new frame has looked at nothing, and nothing unseen has a back edge
    refine ⟨[], rfl, by simp, fun p => ⟨fun hcp => ?_, fun hno => absurd hno.1 (by simp)⟩⟩
    exact absurd (h.closing x p hcp).2.2.1 hnew
  · obtain ⟨h1, h2, h3, h4⟩ := h.closing c p hcp
    exact ⟨h1, h2, hgrow c h3, hgrow p h4⟩

/-- Only `Examined` tells two paths through the same entities apart. -/
theorem sound_of_examined {path' : List Frame} (h : Sound s ⟨marks, path, done, back⟩)
    (he : path'.map Frame.entity = path.map Frame.entity) (hx : Examined s marks back path') :
    Sound s ⟨marks, path', done, back⟩ where
  entered x := by rw [h.entered, he]
  finished := h.finished
  path_nodup := he ▸ h.path_nodup
  finished_nodup := h.finished_nodup
  chain := he ▸ h.chain
  examined := hx
  settled := h.settled
  closing := h.closing
  rooted := h.rooted

/-- The parent that a frame looks at next is a parent of its entity. -/
theorem examined_refers (h : Examined s marks back (⟨name, parent :: rest⟩ :: path)) :
    s.Refers name parent := by
  obtain ⟨⟨seen, hseen, _⟩, _⟩ := h
  show parent ∈ s.parents name
  simp only at hseen
  simp [hseen]

/-- **An unseen parent may be entered.** -/
theorem sound_enter (h : Sound s ⟨marks, ⟨name, parent :: rest⟩ :: path, done, back⟩)
    (hp : marks[parent]? = none) :
    Sound s ⟨marks.insert parent .entered, s.frame parent :: ⟨name, rest⟩ :: path, done, back⟩ := by
  have hnew : parent ∉ marks := by simpa using hp
  have hpath : parent ∉ name :: path.map Frame.entity :=
    fun hm => hnew (h.mem_marks.mpr (Or.inl hm))
  have hrefers := examined_refers h.examined
  have hrooted : ∃ root ∈ s.entities, s.Reaches root parent := by
    have hname : name ∈ marks := h.mem_marks.mpr (Or.inl (List.mem_cons_self ..))
    obtain ⟨root, hroot, hreach⟩ := h.rooted name hname
    exact ⟨root, hroot, hreach.tail hrefers⟩
  have hpush := sound_push h hnew (List.isChain_cons_cons.mpr ⟨hrefers, h.chain⟩) hrooted
  refine sound_of_examined hpush rfl ⟨hpush.examined.1, ?_⟩
  exact examined_look hpush.examined.2 Std.ExtTreeMap.mem_insert_self hpath

/-- **A parent on the path may be reported as a back edge.** -/
theorem sound_close (h : Sound s ⟨marks, ⟨name, parent :: rest⟩ :: path, done, back⟩)
    (hp : marks[parent]? = some .entered) :
    Sound s ⟨marks, ⟨name, rest⟩ :: path, done, (name, parent) :: back⟩ := by
  have hnd := List.nodup_cons.mp h.path_nodup
  have hpath : parent ∈ name :: path.map Frame.entity := (h.entered parent).mp hp
  have hnew : name ∉ done := h.not_finished (List.mem_cons_self ..)
  have hmem : ∀ x ∈ name :: path.map Frame.entity, x ∈ marks :=
    fun x hx => h.mem_marks.mpr (Or.inl hx)
  have hrefers := examined_refers h.examined
  obtain ⟨⟨seen, hseen, hmarked, hback⟩, hbelow⟩ := h.examined
  refine ⟨h.entered, h.finished, h.path_nodup, h.finished_nodup, h.chain,
    ⟨⟨seen ++ [parent], by simpa using hseen, fun p hp' => ?_, fun p => ?_⟩,
      examined_back hnd.1 hbelow⟩, settled_back hnew h.settled, fun c p hcp => ?_, h.rooted⟩
  · rcases List.mem_append.mp hp' with hp' | hp'
    · exact hmarked p hp'
    · rw [List.mem_singleton.mp hp']
      exact hmem parent hpath
  · rw [List.mem_cons, hback p, List.mem_append, List.mem_singleton, Prod.mk.injEq]
    constructor
    · intro hp'
      rcases hp' with ⟨_, rfl⟩ | ⟨h1, h2⟩
      · exact ⟨Or.inr rfl, hpath⟩
      · exact ⟨Or.inl h1, h2⟩
    · intro hp'
      obtain ⟨h1 | h1, h2⟩ := hp'
      · exact Or.inr ⟨h1, h2⟩
      · exact Or.inl ⟨rfl, h1⟩
  · rcases List.mem_cons.mp hcp with he | hcp
    · -- the path leads from the parent up to the child
      obtain ⟨rfl, rfl⟩ := Prod.mk.injEq .. ▸ he
      exact ⟨hrefers, reaches_top h.chain _ hpath, hmem _ (List.mem_cons_self ..), hmem _ hpath⟩
    · exact h.closing c p hcp

/-- **A parent in the order may be passed over.** -/
theorem sound_skip (h : Sound s ⟨marks, ⟨name, parent :: rest⟩ :: path, done, back⟩)
    (hp : marks[parent]? = some .finished) :
    Sound s ⟨marks, ⟨name, rest⟩ :: path, done, back⟩ := by
  have hdone : parent ∈ done := (h.finished parent).mp hp
  have hpath : parent ∉ name :: path.map Frame.entity := fun hm => h.not_finished hm hdone
  exact sound_of_examined h rfl
    (examined_look h.examined (h.mem_marks.mpr (Or.inr hdone)) hpath)

end

/-- **Every step keeps the invariant.** -/
theorem sound_step {s : Schema} {w w' : Walk} (h : Sound s w) (hs : Step s w w') : Sound s w' := by
  cases hs with
  | finish => exact sound_finish h
  | enter hp => exact sound_enter h hp
  | close hp => exact sound_close h hp
  | skip hp => exact sound_skip h hp

theorem sound_steps {s : Schema} {w w' : Walk} (h : Sound s w)
    (hs : ReflTransGen (Step s) w w') : Sound s w' := by
  induction hs with
  | refl => exact h
  | tail _ hs ih => exact sound_step ih hs

/-! ## From entity to entity -/

/-- Between two visits the path is empty. -/
structure Rested (s : Schema) (w : Walk) : Prop where
  sound : Sound s w
  path_nil : w.path = []

theorem rested_start (s : Schema) : Rested s start := ⟨sound_start s, rfl⟩

/-- Without a path, what is marked is in the order. -/
theorem Rested.mem_marks {s : Schema} {w : Walk} (h : Rested s w) {x : String} :
    x ∈ w.marks ↔ x ∈ w.finished := by
  rw [h.sound.mem_marks, h.path_nil]
  simp

/-- **A visit marks its root, and all it marks is finished when it ends.** -/
theorem rested_visit {s : Schema} {w : Walk} {root : String} (h : Rested s w)
    (hroot : root ∈ s.entities) :
    Rested s (visit s w root) ∧ root ∈ (visit s w root).marks
      ∧ ∀ x ∈ w.marks, x ∈ (visit s w root).marks := by
  unfold visit
  split
  · rename_i hin
    exact ⟨h, hin, fun _ hx => hx⟩
  · rename_i hnew
    obtain ⟨marks, path, done, back⟩ := w
    obtain rfl : path = [] := h.path_nil
    have hsteps := run_steps s ⟨marks.insert root .entered, [s.frame root], done, back⟩
    -- between two visits the path is empty, so the root is the only frame to begin with
    have hpush := sound_push h.sound hnew (List.isChain_singleton _) ⟨root, hroot, .refl⟩
    refine ⟨⟨sound_steps hpush hsteps, run_path s _⟩, ?_, fun x hx => ?_⟩
    · exact steps_mem_marks hsteps Std.ExtTreeMap.mem_insert_self
    · exact steps_mem_marks hsteps (Std.ExtTreeMap.mem_insert.mpr (Or.inr hx))

theorem rested_foldl_visit {s : Schema} {roots : List String} :
    ∀ {w : Walk}, Rested s w → (∀ root ∈ roots, root ∈ s.entities) →
      Rested s (roots.foldl (visit s) w) ∧ (∀ root ∈ roots, root ∈ (roots.foldl (visit s) w).marks)
        ∧ ∀ x ∈ w.marks, x ∈ (roots.foldl (visit s) w).marks := by
  induction roots with
  | nil => exact fun h _ => ⟨h, by simp, fun _ hx => hx⟩
  | cons root roots ih =>
    intro w h hroots
    obtain ⟨h1, hroot, hgrow⟩ := rested_visit h (hroots root (List.mem_cons_self ..))
    obtain ⟨h2, hrest, hgrow'⟩ := ih h1 fun x hx => hroots x (List.mem_cons_of_mem _ hx)
    refine ⟨h2, fun x hx => ?_, fun x hx => hgrow' x (hgrow x hx)⟩
    rcases List.mem_cons.mp hx with rfl | hx
    · exact hgrow' _ hroot
    · exact hrest x hx

end Walk

end Crowfoot
