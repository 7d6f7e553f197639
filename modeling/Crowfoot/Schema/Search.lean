import Crowfoot.Schema.Order

/-!
# The order by recursion

The post-order of a depth-first search can be said without a stack. To visit an entity is to mark
it, to look at its parents one after the other, and then to put it into the order. A parent that is
not marked is visited on the spot, before the next one is looked at.

This recursion comes to an end because a visit marks an entity and no mark is ever removed. So a
search carries with it that it has all the marks of the one that it goes on from.
-/

namespace Crowfoot

/-- What a search has found so far, the earliest item in front. -/
structure Search where
  marks : Named Mark
  finished : List String
  backEdges : List (String × String)

namespace Search

/-- The search has seen nothing. -/
def start : Search := ⟨∅, [], []⟩

/-- The search goes into an entity. -/
def enter (σ : Search) (name : String) : Search :=
  { σ with marks := σ.marks.insert name .entered }

/-- The search is done with an entity, which comes next in the order. -/
def finish (σ : Search) (name : String) : Search :=
  { σ with marks := σ.marks.insert name .finished, finished := σ.finished ++ [name] }

/-- A reference closes a cycle. -/
def close (σ : Search) (child parent : String) : Search :=
  { σ with backEdges := σ.backEdges ++ [(child, parent)] }

/-- The search looks at a parent of an entity that it is in. -/
def look (visit : Search → String → Search) (child : String) (σ : Search) (parent : String) :
    Search :=
  match σ.marks[parent]? with
  | none => visit σ parent
  | some .entered => σ.close child parent
  | some .finished => σ

/--
The search visits unmarked entities: it enters one, looks at its parents in the order of the
foreign keys, visiting them in the same way, and finishes it.
-/
def IsVisit (s : Schema) (visit : Search → String → Search) : Prop :=
  ∀ σ name, name ∉ σ.marks →
    visit σ name = ((s.parents name).foldl (look visit name) (σ.enter name)).finish name

/-- The search over all entities of the schema, in the order of their names. -/
def overall (s : Schema) (visit : Search → String → Search) : Search :=
  s.entities.keys.foldl (fun σ root => if root ∈ σ.marks then σ else visit σ root) start

/-! ## A visit that ends -/

/-- A search that has gone on from another one. -/
def Later (σ : Search) : Type := { σ' : Search // ∀ x ∈ σ.marks, x ∈ σ'.marks }

/-- A bound for the parents that are still to be looked at. -/
def pending (s : Schema) (σ : Search) (parents : List String) : Nat :=
  Walk.unseen σ.marks s.foreignKeys.toList + 2 * parents.length

theorem pending_enter {s : Schema} {σ : Search} {parent : String}
    (h : parent ∉ σ.marks) (rest : List String) :
    pending s (σ.enter parent) (s.parents parent) < pending s σ (parent :: rest) := by
  have hroom := Walk.unseen_enter (s := s) (m := .entered) h
  simp only [pending, enter, List.length_cons]
  omega

theorem pending_later {s : Schema} {σ σ' : Search} (h : ∀ x ∈ σ.marks, x ∈ σ'.marks)
    (parent : String) (rest : List String) :
    pending s σ' rest < pending s σ (parent :: rest) := by
  have hless := Walk.unseen_mono h s.foreignKeys.toList
  simp only [pending, List.length_cons]
  omega

/-- The search looks at parents of an entity one after the other. -/
def lookAll (s : Schema) (child : String) (parents : List String) (σ : Search) : σ.Later :=
  match parents with
  | [] => ⟨σ, fun _ hx => hx⟩
  | parent :: rest =>
    match _hp : σ.marks[parent]? with
    | none =>
      match lookAll s parent (s.parents parent) (σ.enter parent) with
      | ⟨inner, hinner⟩ =>
        have hlater : ∀ x ∈ σ.marks, x ∈ (inner.finish parent).marks := fun x hx =>
          inner.marks.mem_insert_of_mem parent .finished x
            (hinner x (σ.marks.mem_insert_of_mem parent .entered x hx))
        match lookAll s child rest (inner.finish parent) with
        | ⟨outer, houter⟩ => ⟨outer, fun x hx => houter x (hlater x hx)⟩
    | some .entered =>
      match lookAll s child rest (σ.close child parent) with
      | ⟨outer, houter⟩ => ⟨outer, houter⟩
    | some .finished => lookAll s child rest σ
termination_by pending s σ parents
decreasing_by
  · exact pending_enter (by simpa using _hp) rest
  · exact pending_later hlater parent rest
  · exact pending_later (fun _ hx => hx) parent rest
  · exact pending_later (fun _ hx => hx) parent rest

/-- The visit of an entity. -/
def visit (s : Schema) (σ : Search) (name : String) : Search :=
  (lookAll s name (s.parents name) (σ.enter name)).val.finish name

end Search

end Crowfoot
