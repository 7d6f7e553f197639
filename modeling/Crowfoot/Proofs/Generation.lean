import Crowfoot.Plan
import Crowfoot.Proofs.Joins

/-!
# Runs that fill all tables

A run makes one step for each entity and one for each join table. `Leads` follows it as
long as the steps succeed, so a run either leads through all its steps or leads to a step
that fails.

After the steps for some names the pools are known without looking at any cell:
`poolsOf` has the keys of those names that have a primary key, and nothing else. That is
the invariant `Filled` carries along, together with the way each table was made.
-/

namespace Crowfoot

open Fill

namespace Generation

variable {γ : Type}

/-! ## The steps of a run -/

/-- The steps succeed one after the other, from the first progress and generator to the last. -/
inductive Leads : List (Progress → Fill γ Progress) → Progress × γ → Progress × γ → Prop
  | nil {x : Progress × γ} : Leads [] x x
  | cons {step : Progress → Fill γ Progress} {rest : List (Progress → Fill γ Progress)}
      {p p' : Progress} {g : γ} {y : Progress × γ} (h : ((step p).run.run g).1 = .ok p')
      (hrest : Leads rest (p', ((step p).run.run g).2) y) : Leads (step :: rest) (p, g) y

theorem leads_cons {step : Progress → Fill γ Progress} {rest : List (Progress → Fill γ Progress)}
    {p p' : Progress} {g g' : γ} {y : Progress × γ} (h : (step p).run.run g = (.ok p', g'))
    (hrest : Leads rest (p', g') y) : Leads (step :: rest) (p, g) y := by
  refine .cons (congrArg Prod.fst h) ?_
  rw [h]
  exact hrest

theorem leads_append {before after : List (Progress → Fill γ Progress)} {x z : Progress × γ}
    (h : Leads (before ++ after) x z) : ∃ y, Leads before x y ∧ Leads after y z := by
  induction before generalizing x with
  | nil => exact ⟨x, .nil, h⟩
  | cons step before ih =>
    cases h with
    | cons hstep hrest =>
      obtain ⟨y, hy, hz⟩ := ih hrest
      exact ⟨y, .cons hstep hy, hz⟩

theorem leads_trans {before after : List (Progress → Fill γ Progress)} {x y z : Progress × γ}
    (h : Leads before x y) (hafter : Leads after y z) : Leads (before ++ after) x z := by
  induction h with
  | nil => exact hafter
  | cons hstep _ ih => exact .cons hstep (ih hafter)

theorem run_cons_ok {step : Progress → Fill γ Progress} {rest : List (Progress → Fill γ Progress)}
    {p p' : Progress} {g : γ} (h : ((step p).run.run g).1 = .ok p') :
    (run p (step :: rest)).run g = (run p' rest).run ((step p).run.run g).2 := by
  have hstep : (step p).run.run g = (.ok p', ((step p).run.run g).2) := Prod.ext h rfl
  rw [run, StateT.run_bind, hstep]
  rfl

theorem run_cons_error {step : Progress → Fill γ Progress}
    {rest : List (Progress → Fill γ Progress)} {p : Progress} {g : γ} {err : GenerationError}
    (h : ((step p).run.run g).1 = .error err) :
    ((run p (step :: rest)).run g).1 = ⟨p.tables, some err⟩ := by
  have hstep : (step p).run.run g = (.error err, ((step p).run.run g).2) := Prod.ext h rfl
  rw [run, StateT.run_bind, hstep]
  rfl

/-- A run that leads through all its steps gives what it has led to. -/
theorem run_of_leads {steps : List (Progress → Fill γ Progress)} {x y : Progress × γ}
    (h : Leads steps x y) : (run x.1 steps).run x.2 = (⟨y.1.tables, none⟩, y.2) := by
  induction h with
  | nil => rfl
  | cons hstep _ ih => exact (run_cons_ok hstep).trans ih

/-- A run leads through all its steps, or to a step that fails. -/
theorem run_cases (steps : List (Progress → Fill γ Progress)) (p : Progress) (g : γ) :
    (∃ y, Leads steps (p, g) y ∧ ((run p steps).run g).1 = ⟨y.1.tables, none⟩) ∨
    ∃ before step after y err, steps = before ++ step :: after ∧ Leads before (p, g) y ∧
      ((step y.1).run.run y.2).1 = .error err ∧
      ((run p steps).run g).1 = ⟨y.1.tables, some err⟩ := by
  induction steps generalizing p g with
  | nil => exact Or.inl ⟨(p, g), .nil, rfl⟩
  | cons step rest ih =>
    cases hstep : ((step p).run.run g).1 with
    | error err =>
      exact Or.inr ⟨[], step, rest, (p, g), err, rfl, .nil, hstep, run_cons_error hstep⟩
    | ok p' =>
      rw [run_cons_ok hstep]
      -- the first step succeeds, so it goes in front of what the rest does
      rcases ih p' ((step p).run.run g).2 with ⟨y, hy, hrest⟩ |
        ⟨before, next, after, y, err, hsplit, hy, herr, hrest⟩
      · exact Or.inl ⟨y, .cons hstep hy, hrest⟩
      · exact Or.inr ⟨step :: before, next, after, y, err, by rw [hsplit]; rfl,
          .cons hstep hy, herr, hrest⟩

variable [Generator γ]

/-! ## Entities -/

/-- The keys that have been generated after those names. -/
def poolsOf (s : Schema) (rows : Nat) (names : List String) : KeyPools :=
  (names.filter fun name => decide (s.HasKey name)).map fun name => (name, keyRange rows)

theorem poolsOf_concat (s : Schema) (rows : Nat) (names : List String) (name : String) :
    poolsOf s rows (names ++ [name]) =
      if s.HasKey name then poolsOf s rows names ++ [(name, keyRange rows)]
      else poolsOf s rows names := by
  unfold poolsOf
  rw [List.filter_append, List.map_append]
  split
  · rename_i h
    simp [h]
  · rename_i h
    simp [h]

theorem of_poolsOf (s : Schema) (rows : Nat) (names : List String) (name : String) :
    (poolsOf s rows names).of name =
      if name ∈ names ∧ s.HasKey name then keyRange rows else [] := by
  induction names with
  | nil => simp [poolsOf, KeyPools.of]
  | cons other names ih =>
    unfold poolsOf KeyPools.of at ih ⊢
    rw [List.filter_cons]
    -- an entity without a key gives no pool, so it is passed over
    by_cases hother : s.HasKey other
    · rw [if_pos (decide_eq_true hother), List.map_cons, List.lookup_cons]
      by_cases he : name = other
      · subst he
        rw [beq_self_eq_true, if_pos ⟨List.mem_cons_self .., hother⟩]
        rfl
      · rw [beq_eq_false_iff_ne.mpr he, ih]
        simp [he]
    · rw [if_neg (by simpa using hother), ih]
      by_cases he : name = other
      · subst he
        simp [hother]
      · simp [he]

theorem fullPools_poolsOf (s : Schema) (rows : Nat) (names : List String) :
    FullPools rows (poolsOf s rows names) := by
  intro name
  rw [of_poolsOf]
  split
  · exact Or.inr rfl
  · exact Or.inl rfl

/-- The tables of those entities have been filled in that order. -/
structure Filled (source : ValueSource γ) (s : Schema) (rows : Nat) (names : List String)
    (p : Progress) : Prop where
  pools : p.pools = poolsOf s rows names
  length : p.tables.length = names.length
  /-- Each table was made with the tables before it and the keys of the names before it. -/
  table : ∀ i name, names[i]? = some name → ∃ e t, s.entity? name = some e ∧
    p.tables[i]? = some t ∧
    TableMade source s rows ⟨p.tables.take i, poolsOf s rows (names.take i)⟩ e t

theorem filled_start (source : ValueSource γ) (s : Schema) (rows : Nat) :
    Filled source s rows [] .start :=
  ⟨rfl, rfl, fun i name h => absurd h (by simp)⟩

/-- **One more table leaves the tables before it as they were made.** -/
theorem filled_withEntity {source : ValueSource γ} {s : Schema} {rows : Nat}
    {names : List String} {p : Progress} (h : Filled source s rows names p) {name : String}
    {e : Entity} {t : Table} (he : s.entity? name = some e)
    (ht : TableMade source s rows p e t) :
    Filled source s rows (names ++ [name]) (withEntity p rows name e t) := by
  have hkey : s.HasKey name ↔ e.primaryKey.isSome := by
    rw [Schema.HasKey, he]
    rfl
  refine ⟨?_, ?_, fun i other hi => ?_⟩
  · rw [poolsOf_concat, ← h.pools]
    by_cases hk : s.HasKey name
    · rw [if_pos hk]
      exact if_pos (hkey.mp hk)
    · rw [if_neg hk]
      exact if_neg fun hp => hk (hkey.mpr hp)
  · simp [withEntity, h.length]
  · obtain ⟨hlen, hother⟩ := List.getElem?_eq_some_iff.mp hi
    rw [List.length_append, List.length_singleton] at hlen
    by_cases hlt : i < names.length
    · rw [List.getElem_append_left hlt] at hother
      have hname : names[i]? = some other := by rw [List.getElem?_eq_getElem hlt, hother]
      obtain ⟨e', t', he', ht', hmade⟩ := h.table i other hname
      refine ⟨e', t', he', ?_, ?_⟩
      · show (p.tables ++ [t])[i]? = some t'
        rw [List.getElem?_append_left (h.length ▸ hlt)]
        exact ht'
      · show TableMade source s rows ⟨(p.tables ++ [t]).take i, _⟩ e' t'
        rw [List.take_append_of_le_length (by rw [h.length]; omega),
          List.take_append_of_le_length (by omega)]
        exact hmade
    · -- the table of the name that was added
      obtain rfl : i = names.length := by omega
      obtain rfl : name = other := by simpa using hi
      refine ⟨e, t, he, ?_, ?_⟩
      · show (p.tables ++ [t])[names.length]? = some t
        rw [← h.length]
        simp
      · show TableMade source s rows ⟨(p.tables ++ [t]).take names.length, _⟩ e t
        have htables : (p.tables ++ [t]).take names.length = p.tables := by
          rw [← h.length]
          simp
        rw [htables, List.take_left', ← h.pools]
        · exact ht
        · rfl

/-- Every table was made for one of the names. -/
theorem filled_mem {source : ValueSource γ} {s : Schema} {rows : Nat} {names : List String}
    {q : Progress} (h : Filled source s rows names q) {t : Table} (ht : t ∈ q.tables) :
    ∃ i name e, names[i]? = some name ∧ s.entity? name = some e ∧
      TableMade source s rows ⟨q.tables.take i, poolsOf s rows (names.take i)⟩ e t := by
  obtain ⟨i, hi, rfl⟩ := List.mem_iff_getElem.mp ht
  have hlen : i < names.length := h.length ▸ hi
  obtain ⟨e, t, he, ht, hmade⟩ := h.table i names[i] (List.getElem?_eq_getElem hlen)
  rw [List.getElem?_eq_getElem hi] at ht
  obtain rfl := Option.some.inj ht
  exact ⟨i, names[i], e, List.getElem?_eq_getElem hlen, he, hmade⟩

/-- The step for an entity. -/
def entityStep (source : ValueSource γ) (s : Schema) (rows : Nat) (name : String) (p : Progress) :
    Fill γ Progress := Fill.entity source s rows p name

theorem filled_leads {source : ValueSource γ} {s : Schema} {rows : Nat} {names done : List String}
    {x y : Progress × γ} (h : Filled source s rows done x.1)
    (hl : Leads (names.map (entityStep source s rows)) x y) :
    Filled source s rows (done ++ names) y.1 := by
  induction names generalizing done x with
  | nil =>
    cases hl
    rw [List.append_nil]
    exact h
  | cons name names ih =>
    cases hl with
    | @cons _ _ p p' g _ hstep hrest =>
      -- a step that succeeds has added the table of its entity
      obtain ⟨e, t, he, ht, rfl⟩ := entity_ensures.of_ok hstep
      have hnext := ih (filled_withEntity h he ht) hrest
      rw [List.append_assoc] at hnext
      exact hnext

/-! ## Join tables -/

/-- The step for a join table. -/
def joinStep (s : Schema) (rows : Nat) (t : JoinTable) (p : Progress) : Fill γ Progress :=
  Fill.join s rows p t

theorem joined_leads {s : Schema} {rows : Nat} {joins : List JoinTable} {x y : Progress × γ}
    (hpools : FullPools rows x.1.pools) (hl : Leads (joins.map (joinStep s rows)) x y) :
    ∃ tables, y.1 = ⟨x.1.tables ++ tables, x.1.pools⟩ ∧
      List.Forall₂ (JoinMade s rows) joins tables := by
  induction joins generalizing x with
  | nil =>
    cases hl
    exact ⟨[], by rw [List.append_nil], .nil⟩
  | cons join joins ih =>
    cases hl with
    | @cons _ _ p p' g _ hstep hrest =>
      -- a join table leaves the keys as they are, so the next ones are drawn from the same
      obtain ⟨t, ht, rfl⟩ := (join_ensures hpools).of_ok hstep
      obtain ⟨tables, hy, htables⟩ := ih (x := (⟨p.tables ++ [t], p.pools⟩, _)) hpools hrest
      refine ⟨t :: tables, ?_, .cons ht htables⟩
      rw [hy]
      simp

/-! ## Whole runs -/

/-- How far a run came that made all the steps for the names in front. -/
theorem leads_entities {source : ValueSource γ} {s : Schema} {rows : Nat} {names : List String}
    {joins : List JoinTable} {g : γ} {y : Progress × γ}
    (h : Leads (names.map (entityStep source s rows) ++ joins.map (joinStep s rows))
      (.start, g) y) :
    ∃ q tables, Filled source s rows names q ∧ List.Forall₂ (JoinMade s rows) joins tables ∧
      y.1 = ⟨q.tables ++ tables, poolsOf s rows names⟩ := by
  obtain ⟨z, hentities, hjoins⟩ := leads_append h
  have hz := filled_leads (filled_start source s rows) hentities
  rw [List.nil_append] at hz
  obtain ⟨tables, hy, htables⟩ := joined_leads (hz.pools ▸ fullPools_poolsOf s rows names) hjoins
  exact ⟨z.1, tables, hz, htables, by rw [hy, hz.pools]⟩

/-- A step among those for entities and join tables is one or the other. -/
theorem step_cases {source : ValueSource γ} {s : Schema} {rows : Nat} {names : List String}
    {joins : List JoinTable} {before after : List (Progress → Fill γ Progress)}
    {step : Progress → Fill γ Progress}
    (h : names.map (entityStep source s rows) ++ joins.map (joinStep s rows)
      = before ++ step :: after) :
    (∃ done name rest, names = done ++ name :: rest ∧
      before = done.map (entityStep source s rows) ∧ step = entityStep source s rows name) ∨
    ∃ done join rest, joins = done ++ join :: rest ∧
      before = names.map (entityStep source s rows) ++ done.map (joinStep s rows) ∧
      step = joinStep s rows join := by
  rcases List.append_eq_append_iff.mp h with ⟨more, hbefore, hjoins⟩ | ⟨more, hnames, hafter⟩
  · -- the step is among those of the join tables
    obtain ⟨done, rest, rfl, rfl, hrest⟩ := List.map_eq_append_iff.mp hjoins
    obtain ⟨join, rest, rfl, rfl, _⟩ := List.map_eq_cons_iff.mp hrest
    exact Or.inr ⟨done, join, rest, rfl, hbefore, rfl⟩
  · cases more with
    | nil =>
      -- it is the first of them
      obtain ⟨join, rest, rfl, rfl, _⟩ := List.map_eq_cons_iff.mp hafter.symm
      exact Or.inr ⟨[], join, rest, rfl, by simpa using hnames.symm, rfl⟩
    | cons _ more =>
      obtain ⟨rfl, rfl⟩ := List.cons.inj hafter
      obtain ⟨done, rest, rfl, rfl, hrest⟩ := List.map_eq_append_iff.mp hnames
      obtain ⟨name, rest, rfl, rfl, _⟩ := List.map_eq_cons_iff.mp hrest
      exact Or.inl ⟨done, name, rest, rfl, rfl, rfl⟩

/-- **How far a run came, whether it fails or not.** -/
theorem ofSchema_tables (source : ValueSource γ) (s : Schema) (o : DependencyOrder) (rows : Nat)
    (g : γ) : ∃ names joins q tables, names <+: o.entities ∧ joins <+: s.joinTables ∧
      Filled source s rows names q ∧ List.Forall₂ (JoinMade s rows) joins tables ∧
      ((ofSchema source s o rows).run g).1.tables = q.tables ++ tables := by
  unfold ofSchema
  rcases run_cases (steps source s o rows) .start g with ⟨y, hl, hrun⟩ |
    ⟨before, step, after, y, err, hsplit, hl, _, hrun⟩
  · rw [hrun]
    obtain ⟨q, tables, hq, hjoins, hy⟩ := leads_entities hl
    exact ⟨_, _, q, tables, List.prefix_rfl, List.prefix_rfl, hq, hjoins, by rw [hy]⟩
  · rw [hrun]
    rcases step_cases hsplit with ⟨done, name, rest, hnames, rfl, _⟩ |
      ⟨done, join, rest, hjoins, rfl, _⟩
    · -- it stopped among the entities, so there are no join tables yet
      have hq := filled_leads (filled_start source s rows) hl
      rw [List.nil_append] at hq
      exact ⟨done, [], y.1, [], ⟨_, hnames.symm⟩, List.nil_prefix, hq, .nil,
        (List.append_nil _).symm⟩
    · -- it stopped among the join tables, behind all entities
      obtain ⟨q, tables, hq, htables, hy⟩ := leads_entities hl
      exact ⟨_, done, q, tables, List.prefix_rfl, ⟨_, hjoins.symm⟩, hq, htables, by rw [hy]⟩

/-- **All tables of a run have all rows.** -/
theorem length_rows {source : ValueSource γ} {s : Schema} {o : DependencyOrder} {rows : Nat} {g : γ}
    {t : Table} (ht : t ∈ ((ofSchema source s o rows).run g).1.tables) : t.rows.length = rows := by
  obtain ⟨_, _, q, tables, _, _, hq, hjoins, htables⟩ := ofSchema_tables source s o rows g
  rw [htables] at ht
  rcases List.mem_append.mp ht with ht | ht
  · obtain ⟨_, _, _, _, _, hmade⟩ := filled_mem hq ht
    exact hmade.length
  · obtain ⟨_, _, hmade⟩ := joinMade_of_mem hjoins ht
    exact hmade.length

/-- Why a run through those entities and the join tables fails. -/
inductive Fails (s : Schema) (rows : Nat) (names : List String) : GenerationError → Prop
  | unknown {name : String} (hname : name ∈ names) (h : s.entity? name = none) :
      Fails s rows names (.unknownEntity name)
  /-- A column refuses the keys that were generated before its entity. -/
  | entity {before after : List String} {name : String} {e : Entity} {c : Column}
      {err : GenerationError} (hrows : 0 < rows) (hsplit : names = before ++ name :: after)
      (he : s.entity? name = some e) (hc : c ∈ s.columns e.name)
      (h : Refused e (poolsOf s rows before) c err) : Fails s rows names err
  /-- A join table refuses the keys of the entities. -/
  | join {t : JoinTable} {err : GenerationError} (hrows : 0 < rows) (ht : t ∈ s.joinTables)
      (h : JoinRefused s (poolsOf s rows names) t err) : Fails s rows names err

theorem fails_of_step {source : ValueSource γ} {s : Schema} {rows : Nat} {names : List String}
    {before after : List (Progress → Fill γ Progress)} {step : Progress → Fill γ Progress}
    {g : γ} {y : Progress × γ} {err : GenerationError}
    (hsplit : names.map (entityStep source s rows) ++ s.joinTables.map (joinStep s rows)
      = before ++ step :: after)
    (hl : Leads before (.start, g) y) (herr : ((step y.1).run.run y.2).1 = .error err) :
    Fails s rows names err := by
  rcases step_cases hsplit with ⟨done, name, rest, hnames, rfl, rfl⟩ |
    ⟨done, join, rest, hjoins, rfl, rfl⟩
  · -- the pools are those of the entities before this one, not of the whole order
    have hdone := filled_leads (filled_start source s rows) hl
    rw [List.nil_append] at hdone
    rcases entity_ensures.of_error herr with ⟨hnone, rfl⟩ | ⟨e, he, hrows, c, hc, hrefused⟩
    · exact .unknown (hnames ▸ by simp) hnone
    · exact .entity hrows hnames he hc (hdone.pools ▸ hrefused)
  · obtain ⟨q, tables, _, _, hy⟩ := leads_entities hl
    have hpools : y.1.pools = poolsOf s rows names := by rw [hy]
    have hfull : FullPools rows y.1.pools := hpools ▸ fullPools_poolsOf s rows names
    obtain ⟨hrows, hrefused⟩ := (join_ensures hfull).of_error herr
    exact .join hrows (hjoins ▸ by simp) (hpools ▸ hrefused)

end Generation

namespace Plan

open Generation

variable {γ : Type} [Generator γ]

/-- A dataset has the tables of its run. -/
theorem tables_of_ok {p : Plan} {source : ValueSource γ} {rows : Nat} {g : γ} {d : Dataset}
    (h : ((p.dataset source rows).run g).1 = .ok d) :
    ((p.generate source rows).run g).1.tables = d.tables := by
  replace h : ((p.generate source rows).run g).1.dataset = .ok d := h
  unfold Generation.dataset at h
  split at h
  · exact absurd h (by simp)
  · rw [← Except.ok.inj h]

/-- A dataset is what all steps lead to. -/
theorem leads_of_ok {p : Plan} {source : ValueSource γ} {rows : Nat} {g : γ} {d : Dataset}
    (h : ((p.dataset source rows).run g).1 = .ok d) :
    ∃ y, Leads (steps source p.schema p.order rows) (.start, g) y ∧ d.tables = y.1.tables := by
  have hd : (((Generation.ofSchema source p.schema p.order rows).run g).1).dataset = .ok d := h
  unfold Generation.ofSchema at hd
  rcases run_cases (steps source p.schema p.order rows) .start g with ⟨y, hl, hrun⟩ |
    ⟨_, _, _, y, err, _, _, _, hrun⟩
  · rw [hrun] at hd
    exact ⟨y, hl, by rw [← Except.ok.inj hd]⟩
  · rw [hrun] at hd
    exact absurd hd (by simp [Generation.dataset])

/-- **A dataset has a table for every entity of the order, then one for every join table.** -/
theorem dataset_ok {p : Plan} {source : ValueSource γ} {rows : Nat} {g : γ} {d : Dataset}
    (h : ((p.dataset source rows).run g).1 = .ok d) :
    ∃ q joins, Filled source p.schema rows p.order.entities q ∧
      List.Forall₂ (JoinMade p.schema rows) p.schema.joinTables joins ∧
      d.tables = q.tables ++ joins := by
  obtain ⟨y, hl, htables⟩ := leads_of_ok h
  obtain ⟨q, joins, hq, hjoins, hy⟩ := leads_entities hl
  exact ⟨q, joins, hq, hjoins, by rw [htables, hy]⟩

/-- **Without a dataset there is a reason.** -/
theorem dataset_error {p : Plan} {source : ValueSource γ} {rows : Nat} {g : γ}
    {err : GenerationError} (h : ((p.dataset source rows).run g).1 = .error err) :
    Fails p.schema rows p.order.entities err := by
  have hd : (((Generation.ofSchema source p.schema p.order rows).run g).1).dataset = .error err := h
  unfold Generation.ofSchema at hd
  rcases run_cases (steps source p.schema p.order rows) .start g with ⟨y, _, hrun⟩ |
    ⟨before, step, after, y, err', hsplit, hl, herr, hrun⟩
  · rw [hrun] at hd
    exact absurd hd (by simp [Generation.dataset])
  · rw [hrun] at hd
    obtain rfl := Except.error.inj hd
    exact fails_of_step hsplit hl herr

end Plan

end Crowfoot
