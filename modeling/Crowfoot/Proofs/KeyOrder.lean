import Crowfoot.Proofs.Generation
import Crowfoot.Random.SplitMix
import Crowfoot.Vocabulary.Standard

/-!
# The order of the keys

The keys that have been generated are kept by entity, and nothing is said about the order in which
they are kept. Where several entities are called alike, a row that asks for keys gets those of the
first of them, which looks as if the order mattered. It does not, because all entities have the same
keys at any time: one for each row.

`Same` compares two states of a run that differ in that order only. Every step takes such states to
such states and draws the same, so a run in which the keys are put into another order before every
step gives what any other run gives.
-/

namespace Crowfoot

open Fill Text

/-! ## The keys in another order -/

/-- The pools have the same entries, in any order and however often. -/
def KeyPools.SameEntries (pools pools' : KeyPools) : Prop := ∀ x, x ∈ pools ↔ x ∈ pools'

/-- Nobody who asks for keys by a name can tell the pools apart. -/
structure KeyPools.Alike (pools pools' : KeyPools) : Prop where
  of : ∀ name, pools.of name = pools'.of name
  /-- Rows ask by a name in any case. -/
  keysOf : ∀ (row : RowContext) (entity : String),
    { row with keys := pools }.keysOf entity = { row with keys := pools' }.keysOf entity

section

variable {pools pools' : KeyPools} {keys : List Int}

/-- The keys that are found do not depend on the entry in which they are. -/
theorem getD_find?_of_forall (h : ∀ x ∈ pools, x.2 = keys) (P : String → Bool) :
    ((pools.find? fun x => P x.1).map Prod.snd).getD [] =
      if ∃ x ∈ pools, P x.1 = true then keys else [] := by
  cases hfind : pools.find? fun x => P x.1 with
  | none =>
    rw [if_neg fun ⟨x, hx, hp⟩ => List.find?_eq_none.mp hfind x hx hp]
    rfl
  | some x =>
    have hmem := List.mem_of_find?_eq_some hfind
    have hp : P x.1 = true := by simpa using List.find?_some hfind
    rw [if_pos ⟨x, hmem, hp⟩]
    exact h x hmem

theorem KeyPools.of_eq_find? (pools : KeyPools) (name : String) :
    pools.of name = ((pools.find? fun x => name == x.1).map Prod.snd).getD [] := by
  unfold KeyPools.of
  induction pools with
  | nil => rfl
  | cons x rest ih =>
    rw [List.lookup_cons, List.find?_cons]
    cases name == x.1 with
    | true => rfl
    | false => exact ih

/-- **Pools with the same entries are alike if all entries have the same keys.** -/
theorem alike_of_sameEntries (h : pools.SameEntries pools') (hkeys : ∀ x ∈ pools, x.2 = keys) :
    pools.Alike pools' := by
  have hkeys' : ∀ x ∈ pools', x.2 = keys := fun x hx => hkeys x ((h x).mpr hx)
  have hfind : ∀ P : String → Bool, ((pools.find? fun x => P x.1).map Prod.snd).getD [] =
      ((pools'.find? fun x => P x.1).map Prod.snd).getD [] := by
    intro P
    have hexists : (∃ x ∈ pools, P x.1 = true) ↔ ∃ x ∈ pools', P x.1 = true :=
      exists_congr fun x => and_congr_left' (h x)
    rw [getD_find?_of_forall hkeys, getD_find?_of_forall hkeys', if_congr hexists rfl rfl]
  refine ⟨fun name => ?_, fun row entity => hfind fun name => decide (SameName name entity)⟩
  rw [KeyPools.of_eq_find?, KeyPools.of_eq_find?]
  exact hfind fun other => name == other

end

/-! ## What is drawn with alike keys -/

section

variable {γ : Type} [Generator γ] {pools pools' : KeyPools}

/-- A vocabulary looks at the keys only through the names of their entities. -/
theorem Vocabulary.source_alike (v : Vocabulary) (h : pools.Alike pools') (row : RowContext)
    (a : Attribute) :
    v.source (γ := γ) { row with keys := pools } a = v.source { row with keys := pools' } a := by
  unfold Vocabulary.source
  cases v.lookup? row.entity a.name with
  | none => rfl
  | some candidates =>
    cases candidates with
    | words list => rfl
    | rule r =>
      -- the only entity whose keys a rule asks for
      have hperson := h.keysOf row "Person"
      cases r with
      | advisor => exact congrArg Rule.keyFrom hperson
      | student =>
        show Rule.studentOf _ = Rule.studentOf _
        unfold Rule.studentOf
        rw [hperson]
        rfl
      | _ => rfl

namespace Fill

theorem parentKey_alike (h : pools.Alike pools') (e : Entity) (k : ForeignKey) (rows : Nat) :
    parentKey (γ := γ) e k rows pools = parentKey e k rows pools' := by
  unfold parentKey
  rw [h.of]

theorem cell_alike (v : Vocabulary) (h : pools.Alike pools') (e : Entity) (rows : Nat) (c : Column)
    (row : RowContext) :
    cell (γ := γ) v.source e rows c { row with keys := pools }
      = cell v.source e rows c { row with keys := pools' } := by
  unfold cell
  simp only [parentKey_alike h, v.source_alike h]

theorem cells_alike (v : Vocabulary) (h : pools.Alike pools') (e : Entity) (rows : Nat)
    (columns : List Column) (row : RowContext) :
    cells (γ := γ) v.source e rows { row with keys := pools } columns
      = cells v.source e rows { row with keys := pools' } columns := by
  induction columns generalizing row with
  | nil => rfl
  | cons c rest ih =>
    unfold cells
    rw [cell_alike v h]
    exact congrArg _ (funext fun w => ih { row with values := row.values ++ [w] })

theorem joinPool_alike (h : pools.Alike pools') (s : Schema) (t : JoinTable) (side : JoinSide) :
    joinPool s t pools side = joinPool s t pools' side := by
  unfold joinPool
  rw [h.of]

end Fill

end

/-! ## Runs in step -/

/-- Two states of a run differ at most in the order of the keys, which are those of the rows. -/
structure Progress.Same (rows : Nat) (p p' : Progress) : Prop where
  tables : p.tables = p'.tables
  entries : p.pools.SameEntries p'.pools
  keys : ∀ x ∈ p.pools, x.2 = keyRange rows

namespace Progress.Same

variable {rows : Nat} {p p' : Progress}

theorem alike (h : p.Same rows p') : p.pools.Alike p'.pools :=
  alike_of_sameEntries h.entries h.keys

theorem start : Progress.start.Same rows .start :=
  ⟨rfl, fun _ => Iff.rfl, fun x hx => absurd hx (by simp [Progress.start])⟩

theorem withTable (h : p.Same rows p') (t : Table) :
    Progress.Same rows ⟨p.tables ++ [t], p.pools⟩ ⟨p'.tables ++ [t], p'.pools⟩ :=
  ⟨congrArg (· ++ [t]) h.tables, h.entries, h.keys⟩

/-- The keys of one more entity are those of the rows again. -/
theorem withKeys (h : p.Same rows p') (name : String) :
    Progress.Same rows ⟨p.tables, p.pools ++ [(name, keyRange rows)]⟩
      ⟨p'.tables, p'.pools ++ [(name, keyRange rows)]⟩ := by
  refine ⟨h.tables, fun x => ?_, fun x hx => ?_⟩
  · rw [List.mem_append, List.mem_append, h.entries x]
  · rcases List.mem_append.mp hx with hx | hx
    · exact h.keys x hx
    · rw [List.mem_singleton.mp hx]

/-- The keys of the second state may be put into any order. -/
theorem reordered (h : p.Same rows p') {pools : KeyPools} (hpools : pools.SameEntries p'.pools) :
    p.Same rows { p' with pools } :=
  ⟨h.tables, fun x => (h.entries x).trans (hpools x).symm, h.keys⟩

end Progress.Same

namespace Generation

variable {γ : Type} {rows : Nat} {p p' : Progress}

/-- Steps end alike: with the same error or in states in step, and with the same generator. -/
inductive EndAlike (rows : Nat) :
    Except GenerationError Progress × γ → Except GenerationError Progress × γ → Prop
  | ok {p p' : Progress} (g : γ) (h : p.Same rows p') : EndAlike rows (.ok p, g) (.ok p', g)
  | error (e : GenerationError) (g : γ) : EndAlike rows (.error e, g) (.error e, g)

/-- A step ends alike in states in step. -/
def Respects (rows : Nat) (step : Progress → Fill γ Progress) : Prop :=
  ∀ ⦃p p' : Progress⦄, p.Same rows p' → ∀ g,
    EndAlike rows ((step p).run.run g) ((step p').run.run g)

theorem endAlike_bind {α : Type} (x : Fill γ α) {f f' : α → Progress}
    (h : ∀ a, (f a).Same rows (f' a)) (g : γ) :
    EndAlike rows ((x >>= fun a => pure (f a) : Fill γ Progress).run.run g)
      ((x >>= fun a => pure (f' a) : Fill γ Progress).run.run g) := by
  rw [ExceptT.run_bind, ExceptT.run_bind, StateT.run_bind, StateT.run_bind]
  rcases x.run.run g with ⟨a | a, g'⟩
  · exact .error a g'
  · exact .ok g' (h a)

/-- The keys stay those of the rows as long as the steps succeed. -/
theorem same_of_leads {before : List (Progress → Fill γ Progress)} {x y : Progress × γ}
    (hsteps : ∀ step ∈ before, Respects rows step) (hx : x.1.Same rows x.1)
    (h : Leads before x y) : y.1.Same rows y.1 := by
  induction h with
  | nil => exact hx
  | @cons step rest p q g y hstep _ ih =>
    have hend := hsteps step (List.mem_cons_self ..) hx g
    refine ih (fun s hs => hsteps s (List.mem_cons_of_mem _ hs)) ?_
    rw [show (step p).run.run g = (.ok q, ((step p).run.run g).2) from Prod.ext hstep rfl] at hend
    cases hend with
    | ok _ hq => exact hq

/-- The step after the keys were put into another order. -/
def reordered (reorder : Progress → KeyPools) (step : Progress → Fill γ Progress) (p : Progress) :
    Fill γ Progress := step { p with pools := reorder p }

theorem run_reordered {reorder : Progress → KeyPools}
    (hreorder : ∀ p, (reorder p).SameEntries p.pools) {steps : List (Progress → Fill γ Progress)}
    (hsteps : ∀ step ∈ steps, Respects rows step) (h : p.Same rows p') (g : γ) :
    (run p' (steps.map (reordered reorder))).run g = (run p steps).run g := by
  induction steps generalizing p p' g with
  | nil =>
    show (Generation.mk p'.tables none, g) = (Generation.mk p.tables none, g)
    rw [h.tables]
  | cons step rest ih =>
    -- the states differ in the order of the keys, and so they do behind the step
    have hend := hsteps step (List.mem_cons_self ..) (h.reordered (hreorder p')) g
    have hrest := fun s hs => hsteps s (List.mem_cons_of_mem _ hs)
    rw [List.map_cons, run, run, StateT.run_bind, StateT.run_bind, reordered]
    generalize (step p).run.run g = x at hend
    generalize (step { p' with pools := reorder p' }).run.run g = x' at hend
    cases hend with
    | ok g' hq => exact ih hrest hq g'
    | error e g' =>
      show (Generation.mk p'.tables (some e), g') = (Generation.mk p.tables (some e), g')
      rw [h.tables]

/-! ## The steps of a schema -/

variable [Generator γ]

theorem respects_entity (v : Vocabulary) (s : Schema) (name : String) :
    Respects (γ := γ) rows (entityStep v.source s rows name) := by
  intro p p' h g
  unfold entityStep Fill.entity
  cases s.entity? name with
  | none => exact .error _ g
  | some e =>
    -- a row asks for the keys entity by entity, so it is filled alike
    have htable : entityTable (γ := γ) v.source s rows p e = entityTable v.source s rows p' e := by
      unfold entityTable
      rw [h.tables]
      simp only [fun i => cells_alike (γ := γ) v h.alike e rows (s.columns e.name)
        ⟨e.name, i, (s.columns e.name).map Column.name, [], p'.tables, p.pools⟩]
    dsimp only
    rw [htable]
    refine endAlike_bind _ (fun t => ?_) g
    by_cases hkey : e.primaryKey.isSome
    · simp only [if_pos hkey]
      exact (h.withTable t).withKeys name
    · simp only [if_neg hkey]
      exact h.withTable t

theorem respects_join (s : Schema) (t : JoinTable) :
    Respects (γ := γ) rows (joinStep s rows t) := by
  intro p p' h g
  have htable : joinTable (γ := γ) s rows p t = joinTable s rows p' t := by
    unfold joinTable
    rw [joinPool_alike h.alike, joinPool_alike h.alike]
  unfold joinStep Fill.join
  rw [htable]
  exact endAlike_bind _ (fun table => h.withTable table) g

/-- **Every step of a schema draws the same and ends alike, in whatever order the keys are.** -/
theorem respects_of_mem_steps {v : Vocabulary} {s : Schema} {o : DependencyOrder}
    {step : Progress → Fill γ Progress} (h : step ∈ steps v.source s o rows) :
    Respects rows step := by
  rcases List.mem_append.mp h with h | h
  · obtain ⟨name, _, rfl⟩ := List.mem_map.mp h
    exact respects_entity v s name
  · obtain ⟨t, _, rfl⟩ := List.mem_map.mp h
    exact respects_join s t

/-- The tables of a schema, the keys being put into another order before every step. -/
def ofSchemaReordered (reorder : Progress → KeyPools) (source : ValueSource γ) (s : Schema)
    (o : DependencyOrder) (rows : Nat) : Draw γ Generation :=
  run .start ((steps source s o rows).map (reordered reorder))

/--
**Nothing that is generated depends on the order in which the keys are kept.** Whether the keys are
put into another order before every step or not, a run gives the same tables and the same error and
leaves the same generator. Wherever a run has come to, a row that is filled there gets the same
answers and the same cells from keys in any order.
-/
theorem ofSchema_keyOrder (v : Vocabulary) (s : Schema) (o : DependencyOrder) (rows : Nat)
    (reorder : Progress → KeyPools) (h : ∀ p, (reorder p).SameEntries p.pools) :
    ofSchemaReordered (γ := γ) reorder v.source s o rows = ofSchema v.source s o rows ∧
    ∀ before after : List (Progress → Fill γ Progress), ∀ g y,
      steps v.source s o rows = before ++ after → Leads before (.start, g) y →
      ∀ pools : KeyPools, pools.SameEntries y.1.pools → ∀ row : RowContext, row.keys = y.1.pools →
        (∀ entity, { row with keys := pools }.keysOf entity = row.keysOf entity) ∧
        ∀ e c, cell (γ := γ) v.source e rows c { row with keys := pools }
          = cell v.source e rows c row := by
  constructor
  · exact funext fun g => run_reordered h (fun _ => respects_of_mem_steps) .start g
  · intro before after g y hsplit hl pools hpools row hkeys
    -- the state that was come to is the same up to the order of its keys
    have hbefore : ∀ step ∈ before, Respects rows step := fun step hstep =>
      respects_of_mem_steps (v := v) (s := s) (o := o) (hsplit ▸ List.mem_append_left _ hstep)
    have hy := same_of_leads hbefore .start hl
    have halike := (hy.reordered hpools).alike
    obtain ⟨name, i, columns, values, tables, keys⟩ := row
    subst hkeys
    exact ⟨fun entity => (halike.keysOf _ entity).symm,
      fun e c => (cell_alike v halike e rows c _).symm⟩

/-- Entities whose names differ in case only, and an entity that asks for the keys of persons. -/
def likeNamedText : String :=
  "entity Person \x7b\n id : number <<generated>>\n\x7d\n"
    ++ "entity person \x7b\n id : number <<generated>>\n\x7d\n"
    ++ "entity advisorship \x7b\n advisor_person_id : number\n student_person_id : number\n\x7d\n"
    ++ "person ||--o\x7b advisorship : has\n"

/-- Turned around, the keys of persons are those of the other entity, and nothing changes. -/
theorem ofSchema_keyOrder_likeNamed :
    ∃ p y, Plan.ofText .synthesize likeNamedText = .ok p ∧
      (ofSchemaReordered (fun q => q.pools.reverse) Vocabulary.standard.source p.schema p.order 2
        : Draw SplitMix _) = ofSchema Vocabulary.standard.source p.schema p.order 2 ∧
      Leads (steps Vocabulary.standard.source p.schema p.order 2) (.start, SplitMix.mk [] 0) y ∧
      y.1.pools = [("Person", [1, 2]), ("person", [1, 2])] ∧
      ∀ row : RowContext, row.keys = y.1.pools →
        { row with keys := [("person", [1, 2]), ("Person", [1, 2])] }.keysOf "PERSON"
          = row.keysOf "PERSON" ∧
        ∀ e c, cell (γ := SplitMix) Vocabulary.standard.source e 2 c
            { row with keys := [("person", [1, 2]), ("Person", [1, 2])] }
          = cell Vocabulary.standard.source e 2 c row := by
  have heval : (Plan.ofText .synthesize likeNamedText).toOption.any (fun p =>
      decide (poolsOf p.schema 2 p.order.entities = [("Person", [1, 2]), ("person", [1, 2])]) &&
        ((p.dataset Vocabulary.standard.source 2).run (SplitMix.mk [] 0)).1.toOption.any
          fun _ => true) = true := by
    decide +kernel
  obtain ⟨p, hplan, htest⟩ := exists_ok_of_any heval
  obtain ⟨hnames, hdata⟩ := Bool.and_eq_true_iff.mp htest
  obtain ⟨d, hd, _⟩ := exists_ok_of_any hdata
  obtain ⟨y, hl, _⟩ := Plan.leads_of_ok hd
  obtain ⟨_, _, _, _, hy⟩ := leads_entities hl
  have hpools : y.1.pools = [("Person", [1, 2]), ("person", [1, 2])] := by
    rw [hy]
    exact of_decide_eq_true hnames
  have hturned : KeyPools.SameEntries [("person", [1, 2]), ("Person", [1, 2])] y.1.pools := by
    intro x
    rw [hpools, ← List.mem_reverse]
    rfl
  obtain ⟨hrun, hrows⟩ := ofSchema_keyOrder (γ := SplitMix) Vocabulary.standard p.schema p.order 2
    (fun q => q.pools.reverse) fun _ _ => List.mem_reverse
  refine ⟨p, y, hplan, hrun, hl, hpools, fun row hrow => ?_⟩
  obtain ⟨hkeys, hcell⟩ := hrows _ [] _ y (List.append_nil _).symm hl _ hturned row hrow
  exact ⟨hkeys "PERSON", hcell⟩

end Generation

end Crowfoot
