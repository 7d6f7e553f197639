import Crowfoot.Diagnostic
import Crowfoot.Schema.Basic

/-!
# The order of the entities

Parents come before their children. The order is the post-order of a depth-first walk
along the foreign keys from child to parent, begun at each entity in the order of names.
A reference to an entity that the walk is still inside closes a cycle; it is kept as a
back edge and not followed.

The walk keeps its path on a stack of its own. It ends because the references of
unmarked entities and of the stack, taken together, become fewer.
-/

namespace Crowfoot

/-- How far the walk is with an entity. -/
inductive Mark
  /-- The entity is on the path. -/
  | entered
  /-- The entity and all it depends on are in the order. -/
  | finished
  deriving DecidableEq, Repr

/-- An entity on the path, with the parents that are still to be looked at. -/
structure Frame where
  entity : String
  parents : List String
  deriving DecidableEq, Repr

/-- A state of the walk. The two lists have the latest item in front. -/
structure Walk where
  marks : Named Mark
  path : List Frame
  finished : List String
  backEdges : List (String × String)

/-- Entities in an order, with the references `(child, parent)` that close a cycle. -/
structure DependencyOrder where
  entities : List String
  backEdges : List (String × String)
  deriving DecidableEq, Repr

namespace Schema

/-- The entities that an entity refers to, one for each foreign key. -/
def parents (s : Schema) (entity : String) : List String := (s.keysOf entity).map ForeignKey.parent

/-- The frame of an entity that is entered. -/
def frame (s : Schema) (entity : String) : Frame := ⟨entity, s.parents entity⟩

end Schema

namespace Walk

/-! ## The work that is left -/

/-- Twice the number of the child's references, if the child is unmarked. -/
def unseenOf (marks : Named Mark) (x : String × List ForeignKey) : Nat :=
  if x.1 ∈ marks then 0 else 2 * x.2.length

/-- Twice the number of references of the unmarked children in the list. -/
def unseen (marks : Named Mark) : List (String × List ForeignKey) → Nat
  | [] => 0
  | x :: rest => unseenOf marks x + unseen marks rest

/-- The steps that the frames of a path need, entering a parent not counted. -/
def pending : List Frame → Nat
  | [] => 0
  | f :: rest => (1 + 2 * f.parents.length) + pending rest

/-- A bound for the steps that are left. -/
def work (s : Schema) (w : Walk) : Nat := unseen w.marks s.foreignKeys.toList + pending w.path

/-- More marks leave less to be seen. -/
theorem unseenOf_mono {marks marks' : Named Mark} (h : ∀ name ∈ marks, name ∈ marks')
    (x : String × List ForeignKey) : unseenOf marks' x ≤ unseenOf marks x := by
  unfold unseenOf
  by_cases hx : x.1 ∈ marks
  · exact Nat.le_of_eq ((if_pos (h x.1 hx)).trans (if_pos hx).symm)
  · rw [if_neg hx]
    split
    · exact Nat.zero_le _
    · exact Nat.le_refl _

theorem unseen_mono {marks marks' : Named Mark} (h : ∀ name ∈ marks, name ∈ marks')
    (l : List (String × List ForeignKey)) : unseen marks' l ≤ unseen marks l := by
  induction l with
  | nil => exact Nat.le_refl _
  | cons x rest ih => exact Nat.add_le_add (unseenOf_mono h x) ih

theorem unseen_insert_le (marks : Named Mark) (name : String) (m : Mark)
    (l : List (String × List ForeignKey)) : unseen (marks.insert name m) l ≤ unseen marks l :=
  unseen_mono (marks.mem_insert_of_mem name m) l

theorem unseen_insert_of_mem {marks : Named Mark} {name : String} {m : Mark}
    {keys : List ForeignKey} (h : name ∉ marks) {l : List (String × List ForeignKey)}
    (hl : (name, keys) ∈ l) :
    unseen (marks.insert name m) l + 2 * keys.length ≤ unseen marks l := by
  induction l with
  | nil => cases hl
  | cons x rest ih =>
    unfold unseen
    rcases List.mem_cons.mp hl with rfl | hr
    · have hafter : unseenOf (marks.insert name m) (name, keys) = 0 :=
        if_pos Std.ExtTreeMap.mem_insert_self
      have hbefore : unseenOf marks (name, keys) = 2 * keys.length := if_neg h
      have hrest := unseen_insert_le marks name m rest
      omega
    · have hhead := unseenOf_mono (marks.mem_insert_of_mem name m) x
      have hrest := ih hr
      omega

/-- Entering an unmarked entity leaves room for all its references. -/
theorem unseen_enter {s : Schema} {marks : Named Mark} {name : String} {m : Mark}
    (h : name ∉ marks) :
    unseen (marks.insert name m) s.foreignKeys.toList + 2 * (s.parents name).length
      ≤ unseen marks s.foreignKeys.toList := by
  unfold Schema.parents Schema.keysOf
  cases hk : s.foreignKeys[name]? with
  | none => simpa using unseen_insert_le marks name m _
  | some keys =>
    simpa using unseen_insert_of_mem h (Std.ExtTreeMap.mem_toList_iff_getElem?_eq_some.mpr hk)

/-! ## The walk -/

/-- One step of the walk, made at the top of its path. -/
inductive Step (s : Schema) : Walk → Walk → Prop
  /-- Every parent is in the order or reported, so the entity comes next. -/
  | finish {marks : Named Mark} {name : String} {path : List Frame} {done : List String}
      {back : List (String × String)} :
      Step s ⟨marks, ⟨name, []⟩ :: path, done, back⟩
        ⟨marks.insert name .finished, path, name :: done, back⟩
  /-- The walk goes on from a parent that it has not seen. -/
  | enter {marks : Named Mark} {name parent : String} {rest : List String} {path : List Frame}
      {done : List String} {back : List (String × String)} (h : marks[parent]? = none) :
      Step s ⟨marks, ⟨name, parent :: rest⟩ :: path, done, back⟩
        ⟨marks.insert parent .entered, s.frame parent :: ⟨name, rest⟩ :: path, done, back⟩
  /-- A parent on the path closes a cycle. -/
  | close {marks : Named Mark} {name parent : String} {rest : List String} {path : List Frame}
      {done : List String} {back : List (String × String)} (h : marks[parent]? = some .entered) :
      Step s ⟨marks, ⟨name, parent :: rest⟩ :: path, done, back⟩
        ⟨marks, ⟨name, rest⟩ :: path, done, (name, parent) :: back⟩
  /-- A parent in the order is passed over. -/
  | skip {marks : Named Mark} {name parent : String} {rest : List String} {path : List Frame}
      {done : List String} {back : List (String × String)} (h : marks[parent]? = some .finished) :
      Step s ⟨marks, ⟨name, parent :: rest⟩ :: path, done, back⟩
        ⟨marks, ⟨name, rest⟩ :: path, done, back⟩

/-- Every step leaves less work, so no walk goes on for ever. -/
theorem Step.work_lt {s : Schema} {w w' : Walk} (h : Step s w w') : w'.work s < w.work s := by
  cases h with
  | @finish marks name _ _ _ =>
    have := unseen_insert_le marks name .finished s.foreignKeys.toList
    simp only [work, pending]
    omega
  | @enter marks _ parent _ _ _ _ h =>
    have hnew : parent ∉ marks := by simpa using h
    have := unseen_enter (s := s) (m := .entered) hnew
    simp only [work, pending, Schema.frame, List.length_cons]
    omega
  | close _ =>
    simp only [work, pending, List.length_cons]
    omega
  | skip _ =>
    simp only [work, pending, List.length_cons]
    omega

/-- The walk from a state until its path is empty. -/
def run (s : Schema) (w : Walk) : Walk :=
  match w with
  | ⟨marks, [], done, back⟩ => ⟨marks, [], done, back⟩
  | ⟨marks, ⟨name, []⟩ :: path, done, back⟩ =>
    run s ⟨marks.insert name .finished, path, name :: done, back⟩
  | ⟨marks, ⟨name, parent :: rest⟩ :: path, done, back⟩ =>
    match _h : marks[parent]? with
    | none =>
      run s ⟨marks.insert parent .entered, s.frame parent :: ⟨name, rest⟩ :: path, done, back⟩
    | some .entered => run s ⟨marks, ⟨name, rest⟩ :: path, done, (name, parent) :: back⟩
    | some .finished => run s ⟨marks, ⟨name, rest⟩ :: path, done, back⟩
termination_by w.work s
decreasing_by
  · exact Step.finish.work_lt
  · exact (Step.enter _h).work_lt
  · exact (Step.close _h).work_lt
  · exact (Step.skip _h).work_lt

/-- What is noted on the way until the path is empty: the references that close a cycle. -/
def runNotes (s : Schema) (w : Walk) : List Diagnostic :=
  match w with
  | ⟨_, [], _, _⟩ => []
  | ⟨marks, ⟨name, []⟩ :: path, done, back⟩ =>
    runNotes s ⟨marks.insert name .finished, path, name :: done, back⟩
  | ⟨marks, ⟨name, parent :: rest⟩ :: path, done, back⟩ =>
    match _h : marks[parent]? with
    | none =>
      runNotes s ⟨marks.insert parent .entered, s.frame parent :: ⟨name, rest⟩ :: path, done, back⟩
    | some .entered =>
      .cycleClosed name parent ::
        runNotes s ⟨marks, ⟨name, rest⟩ :: path, done, (name, parent) :: back⟩
    | some .finished => runNotes s ⟨marks, ⟨name, rest⟩ :: path, done, back⟩
termination_by w.work s
decreasing_by
  · exact Step.finish.work_lt
  · exact (Step.enter _h).work_lt
  · exact (Step.close _h).work_lt
  · exact (Step.skip _h).work_lt

/-- The walk has seen nothing. -/
def start : Walk := ⟨∅, [], [], []⟩

/-- The walk goes on from an entity, unless it has been there. -/
def visit (s : Schema) (w : Walk) (root : String) : Walk :=
  if root ∈ w.marks then w
  else run s { w with marks := w.marks.insert root .entered, path := [s.frame root] }

/-- What is noted while the walk goes on from some entities, one after the other. -/
def visitNotes (s : Schema) (w : Walk) : List String → List Diagnostic
  | [] => []
  | root :: rest =>
    (if root ∈ w.marks then []
      else runNotes s { w with marks := w.marks.insert root .entered, path := [s.frame root] })
      ++ visitNotes s (visit s w root) rest

end Walk

namespace DependencyOrder

/-- The order that the walk over a schema finds. -/
def ofSchema (s : Schema) : DependencyOrder :=
  let w := s.entities.keys.foldl (Walk.visit s) Walk.start
  ⟨w.finished.reverse, w.backEdges.reverse⟩

/-- Some references close a cycle. -/
def hasCycles (o : DependencyOrder) : Bool := !o.backEdges.isEmpty

/-- The place of an entity in the order, counted from zero. -/
def position? (o : DependencyOrder) (entity : String) : Option Nat := o.entities.idxOf? entity

/-- What is noted while the order of a schema is found. -/
def notes (s : Schema) : List Diagnostic :=
  Walk.visitNotes s Walk.start s.entities.keys ++ [.ordered (ofSchema s).entities]

end DependencyOrder

end Crowfoot
