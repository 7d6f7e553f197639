import Crowfoot.Proofs.Columns
import Crowfoot.Proofs.Generation

/-!
# Notes on the way

The notes about data are read off the tables in the end. Here the filling notes things when it comes
to them: an entity when its table is there, a join table when it has too few pairs and again when it
is there. What is drawn is the same, and so are the notes, also where the filling fails.
-/

namespace Crowfoot

/-- A computation that draws, may fail, and keeps what it notes until then. -/
abbrev Telling (γ : Type) := ExceptT GenerationError (StateT (List Diagnostic) (Draw γ))

namespace Told

variable {γ α : Type}

/-- A note. -/
def tell (d : Diagnostic) : Telling γ Unit := ExceptT.mk fun log => pure (.ok (), log ++ [d])

/-- A computation that notes nothing. -/
def silently (x : Fill γ α) : Telling γ α := ExceptT.mk fun log => do return (← x.run, log)

section

variable [Generator γ]

/-- What is filled after one more entity, which is noted. -/
def entity (source : ValueSource γ) (s : Schema) (rows : Nat) (p : Progress) (name : String) :
    Telling γ Progress := do
  match s.entity? name with
  | none => throw (.unknownEntity name)
  | some e =>
    let table ← silently (Fill.entityTable source s rows p e)
    let pools := if e.primaryKey.isSome then p.pools ++ [(name, keyRange rows)] else p.pools
    tell (.entityFilled name table.rows.length)
    return ⟨p.tables ++ [table], pools⟩

/-- A join table. Too few pairs are noted. -/
def joinTable (s : Schema) (rows : Nat) (p : Progress) (t : JoinTable) : Telling γ Table := do
  if rows = 0 then return ⟨t.name, .join, t.columns, []⟩
  else
    let left ← silently (liftM (Fill.joinPool s t p.pools t.left))
    let right ← silently (liftM (Fill.joinPool s t p.pools t.right))
    let pairs ← silently (Fill.draw (Fill.matching rows left right))
    let pairs ← silently (Fill.draw (Fill.drawMore rows left right (Fill.attempts rows) pairs))
    if pairs.length < rows then tell (.joinShort t.name rows pairs.length)
    return ⟨t.name, .join, t.columns, pairs.map fun (l, r) => [.int l, .int r]⟩

/-- What is filled after one more join table, which is noted. -/
def join (s : Schema) (rows : Nat) (p : Progress) (t : JoinTable) : Telling γ Progress := do
  let table ← joinTable s rows p t
  tell (.joinFilled t.name table.rows.length)
  return { p with tables := p.tables ++ [table] }

/-- The steps one after the other until one fails. -/
def run (p : Progress) :
    List (Progress → Telling γ Progress) → StateT (List Diagnostic) (Draw γ) Generation
  | [] => return ⟨p.tables, none⟩
  | step :: rest => do
    match ← (step p).run with
    | .ok p => run p rest
    | .error e => return ⟨p.tables, some e⟩

/-- The steps of a schema: its entities in that order, then its join tables. -/
def steps (source : ValueSource γ) (s : Schema) (o : DependencyOrder) (rows : Nat) :
    List (Progress → Telling γ Progress) :=
  o.entities.map (fun name p => entity source s rows p name)
    ++ s.joinTables.map fun t p => join s rows p t

/-- The tables of a schema, and what is noted while they are filled. -/
def ofSchema (source : ValueSource γ) (s : Schema) (o : DependencyOrder) (rows : Nat) :
    Draw γ (Generation × List Diagnostic) :=
  (run .start (steps source s o rows)).run []

end

/-! ## Steps -/

/-- A step fails without a note, or adds one table and notes what there is to note about it. -/
inductive Tells (rows : Nat) (p : Progress) (log : List Diagnostic) :
    Except GenerationError Progress → (Except GenerationError Progress × List Diagnostic) → Prop
  | fails (e : GenerationError) : Tells rows p log (.error e) (.error e, log)
  | adds (t : Table) (pools : KeyPools) :
    Tells rows p log (.ok ⟨p.tables ++ [t], pools⟩)
      (.ok ⟨p.tables ++ [t], pools⟩, log ++ Generation.tableNotes rows t)

/-- The telling step draws what the silent one draws, and tells of what that one does. -/
def Follows (rows : Nat) (p : Progress) (silent : Fill γ Progress) (telling : Telling γ Progress) :
    Prop :=
  ∀ log g, ((telling.run.run log).run g).2 = (silent.run.run g).2 ∧
    Tells rows p log (silent.run.run g).1 ((telling.run.run log).run g).1

section

variable {rows : Nat} {p : Progress}

/-- What is done silently in both steps makes no difference. -/
theorem Follows.silently {x : Fill γ α} {silent : α → Fill γ Progress}
    {telling : α → Telling γ Progress} {P : α → Prop} {E : GenerationError → Prop}
    (hx : Fill.Ensures x P E) (h : ∀ a, P a → Follows rows p (silent a) (telling a)) :
    Follows rows p (x >>= silent) (Told.silently x >>= telling) := by
  intro log g
  have hrun : ((Told.silently x).run.run log).run g =
    (((x.run.run g).1, log), (x.run.run g).2) := rfl
  rw [ExceptT.run_bind, StateT.run_bind, StateT.run_bind, hrun, ExceptT.run_bind, StateT.run_bind]
  have hP := hx g
  cases hr : x.run.run g with
  | mk r g' =>
    rw [hr] at hP
    cases r with
    | error e => exact ⟨rfl, .fails e⟩
    | ok a => exact h a hP log g'

theorem Follows.silently' {x : Fill γ α} {silent : α → Fill γ Progress}
    {telling : α → Telling γ Progress} (h : ∀ a, Follows rows p (silent a) (telling a)) :
    Follows rows p (x >>= silent) (Told.silently x >>= telling) := by
  have hany : Fill.Ensures x (fun _ => True) fun _ => True := by
    intro g
    unfold Fill.Outcome
    split <;> trivial
  exact .silently hany fun a _ => h a

/-- **A telling run does what the silent run does, and has the notes of its tables.** -/
theorem run_follows {silents : List (Progress → Fill γ Progress)}
    {tellings : List (Progress → Telling γ Progress)}
    (h : List.Forall₂ (fun silent telling => ∀ p, Follows rows p (silent p) (telling p))
      silents tellings) (p : Progress) (g : γ) :
    ((run p tellings).run (p.tables.flatMap (Generation.tableNotes rows))).run g =
      ((((Generation.run p silents).run g).1, ((Generation.run p silents).run g).1.notes rows),
        ((Generation.run p silents).run g).2) := by
  induction h generalizing p g with
  | nil => rfl
  | @cons silent telling silents tellings hstep _ ih =>
    -- the notes so far are those of the tables so far, which is what the induction carries
    obtain ⟨hdrawn, htells⟩ := hstep p (p.tables.flatMap (Generation.tableNotes rows)) g
    rw [run, StateT.run_bind, StateT.run_bind, Generation.run, StateT.run_bind]
    cases hsilent : (silent p).run.run g with
    | mk result g' =>
      cases htold : ((telling p).run.run (p.tables.flatMap (Generation.tableNotes rows))).run g with
      | mk told g'' =>
        rw [hsilent, htold] at hdrawn htells
        obtain rfl : g'' = g' := hdrawn
        cases htells with
        | fails e => rfl
        | adds t pools =>
          have hnext := ih ⟨p.tables ++ [t], pools⟩ g''
          rw [List.flatMap_append, List.flatMap_singleton] at hnext
          exact hnext

end

section

variable [Generator γ] {source : ValueSource γ} {s : Schema} {rows : Nat} {p : Progress}

theorem entity_follows (hnamed : ∀ name e, s.entity? name = some e → e.name = name)
    (name : String) :
    Follows rows p (Fill.entity source s rows p name) (entity source s rows p name) := by
  unfold entity Fill.entity
  cases he : s.entity? name with
  | none => exact fun log g => ⟨rfl, .fails _⟩
  | some e =>
    refine Follows.silently Fill.entityTable_ensures fun t ht log g => ⟨rfl, ?_⟩
    have hnote : Generation.tableNotes rows t = [.entityFilled name t.rows.length] := by
      unfold Generation.tableNotes
      rw [ht.kind, ht.name, hnamed name e he]
    have htells : Tells rows p log _ _ :=
      .adds t (if e.primaryKey.isSome then p.pools ++ [(name, keyRange rows)] else p.pools)
    rw [hnote] at htells
    exact htells

theorem join_follows (t : JoinTable) :
    Follows rows p (Fill.join (γ := γ) s rows p t) (join s rows p t) := by
  unfold join joinTable Fill.join Fill.joinTable
  split
  · rename_i hrows
    subst hrows
    exact fun log g => ⟨rfl, .adds ⟨t.name, .join, t.columns, []⟩ p.pools⟩
  · simp only [bind_assoc]
    refine Follows.silently' fun left => Follows.silently' fun right => ?_
    refine Follows.silently' fun pairs => Follows.silently' fun pairs => ?_
    -- both steps draw the same pairs, so what is left to compare is what is noted about them
    have htells : ∀ log, Tells rows p log _ _ := fun log =>
      .adds ⟨t.name, .join, t.columns, pairs.map fun (l, r) => [.int l, .int r]⟩ p.pools
    simp only [Generation.tableNotes, List.length_map] at htells
    split
    · rename_i hshort
      simp only [if_pos hshort, ← List.append_assoc] at htells
      simp only [bind_assoc, pure_bind, List.length_map]
      exact fun log g => ⟨rfl, htells log⟩
    · rename_i hfull
      simp only [if_neg hfull] at htells
      simp only [pure_bind, List.length_map]
      exact fun log g => ⟨rfl, htells log⟩

/-- **Notes on the way are those on the tables that are there in the end.** -/
theorem ofSchema_eq (hnamed : ∀ name e, s.entity? name = some e → e.name = name)
    (o : DependencyOrder) (g : γ) :
    (ofSchema source s o rows).run g =
      ((((Generation.ofSchema source s o rows).run g).1,
          ((Generation.ofSchema source s o rows).run g).1.notes rows),
        ((Generation.ofSchema source s o rows).run g).2) := by
  refine run_follows (List.rel_append ?_ ?_) .start g
  · rw [List.forall₂_map_left_iff, List.forall₂_map_right_iff, List.forall₂_same]
    exact fun name _ p => entity_follows hnamed name
  · rw [List.forall₂_map_left_iff, List.forall₂_map_right_iff, List.forall₂_same]
    exact fun t _ p => join_follows t

end

end Told

/-- **The notes on the data of a plan are those that the filling leaves on its way.** -/
theorem Plan.generate_notes {γ : Type} [Generator γ] {mode : Undeclared} {text : String} {p : Plan}
    (h : ofText mode text = .ok p) (source : ValueSource γ) (rows : Nat) (g : γ) :
    ((Told.ofSchema source p.schema p.order rows).run g).1 =
      (((p.generate source rows).run g).1, ((p.generate source rows).run g).1.notes rows) := by
  have hnamed : ∀ name e, p.schema.entity? name = some e → e.name = name := fun name e he =>
    ((regular_ofText h).proper name e he).named
  rw [Told.ofSchema_eq hnamed]
  rfl

end Crowfoot
