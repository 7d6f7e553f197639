import Crowfoot.Proofs.Generation
import Mathlib.Data.List.Zip

/-!
# What a source is asked

A source can keep a note of every question before it answers, if the generator that it draws from
carries the notes. Of such a run two things can be said: it gives what the run without notes gives,
and the notes are known from the result. `Follows` says the first of computations that ask nothing,
and `Asks` says both of the steps that fill tables.

The questions about a row can be read off the row when it is complete, since a cell is asked for in
the context of the cells before it, and so can those about a table and about all tables.
-/

namespace Crowfoot

/-- A question to a source: the row so far, and the attribute that needs a value. -/
structure Question where
  row : RowContext
  attr : Attribute

/-- A generator with a note of the questions that were asked. -/
structure Noted (γ : Type) where
  generator : γ
  asked : List Question

instance {γ : Type} [Generator γ] : Generator (Noted γ) where
  draw32 n := let (w, g) := Generator.draw32 n.generator; (w, { n with generator := g })
  draw64 n := let (w, g) := Generator.draw64 n.generator; (w, { n with generator := g })

/-- The source that notes each question and answers as it would have without. -/
def ValueSource.noting {γ : Type} (source : ValueSource γ) : ValueSource (Noted γ) :=
  fun row a n =>
    let (v, g) := (source row a).run n.generator
    (v, ⟨g, n.asked ++ [⟨row, a⟩]⟩)

/-- The questions about a cell of a column: one for an attribute that is no key, else none. -/
def Column.questions (c : Column) (e : Entity) (row : RowContext) : List Question :=
  if e.isKey c.name then []
  else
    match c.foreignKey, c.attr with
    | none, some a => [⟨row, a⟩]
    | _, _ => []

variable {γ α β : Type}

/-! ## Computations that ask nothing -/

namespace Draw

/-- The first computation draws as the second one does and asks nothing. -/
def Follows (x : Draw (Noted γ) α) (y : Draw γ α) : Prop :=
  ∀ n, x.run n = ((y.run n.generator).1, { n with generator := (y.run n.generator).2 })

theorem follows_pure (a : α) : Follows (γ := γ) (pure a) (pure a) := fun _ => rfl

theorem Follows.bind {x : Draw (Noted γ) α} {y : Draw γ α} {f : α → Draw (Noted γ) β}
    {f' : α → Draw γ β} (hx : Follows x y) (hf : ∀ a, Follows (f a) (f' a)) :
    Follows (x >>= f) (y >>= f') := by
  intro n
  show (f (x.run n).1).run (x.run n).2 = _
  rw [hx n]
  exact hf _ _

theorem follows_scaled {word : Draw (Noted γ) Nat} {word' : Draw γ Nat} (h : Follows word word')
    (bits n : Nat) : Follows (scaled word bits n) (scaled word' bits n) := by
  refine h.bind fun w => ?_
  dsimp only
  split
  · exact h.bind fun w' => follows_pure _
  · exact follows_pure _

variable [Generator γ]

theorem follows_word32 : Follows (γ := γ) word32 word32 := fun _ => rfl

theorem follows_word64 : Follows (γ := γ) word64 word64 := fun _ => rfl

theorem follows_below32 (n : Nat) : Follows (γ := γ) (below32 n) (below32 n) :=
  follows_scaled follows_word32 32 n

theorem follows_between (low high : Int) : Follows (γ := γ) (between low high) (between low high) :=
  (follows_scaled follows_word64 64 _).bind fun _ => follows_pure _

theorem follows_between32 (low high : Nat) :
    Follows (γ := γ) (between32 low high) (between32 low high) :=
  (follows_below32 _).bind fun _ => follows_pure _

theorem follows_choose (items : List α) : Follows (γ := γ) (choose items) (choose items) := by
  unfold choose
  split
  · exact follows_pure _
  · exact (follows_below32 _).bind fun _ => follows_pure _

theorem follows_refill (s : Indices) : Follows (γ := γ) s.refill s.refill := by
  unfold Indices.refill
  split
  · exact (follows_below32 _).bind fun _ => follows_pure _
  · exact follows_pure _

theorem follows_next (s : Indices) : Follows (γ := γ) s.next s.next := by
  refine (follows_refill s).bind fun s' => ?_
  split
  · exact follows_pure _
  · exact follows_pure _

theorem follows_shuffleFrom (items : Array α) (i : Nat) (s : Indices) :
    Follows (γ := γ) (shuffleFrom items i s) (shuffleFrom items i s) := by
  unfold shuffleFrom
  split
  · refine (follows_next s).bind fun ⟨j, s'⟩ => ?_
    exact follows_shuffleFrom (items.swapIfInBounds i j) (i + 1) s'
  · exact follows_pure _
termination_by items.size - i
decreasing_by simp; omega

theorem follows_shuffle (items : List α) : Follows (γ := γ) (shuffle items) (shuffle items) := by
  unfold shuffle
  split
  · exact follows_pure _
  · exact (follows_shuffleFrom _ _ _).bind fun _ => follows_pure _

end Draw

open Draw

theorem Attribute.follows_fallback [Generator γ] (a : Attribute) :
    Follows (γ := γ) a.fallback a.fallback := by
  unfold fallback
  split
  · exact (follows_between _ _).bind fun _ => follows_pure _
  · exact (follows_between _ _).bind fun _ => follows_pure _
  · exact (follows_between32 _ _).bind fun _ => follows_pure _
  · exact (follows_between32 _ _).bind fun _ => follows_pure _
  · exact (follows_between32 _ _).bind fun _ => follows_pure _

namespace Fill

section

variable [Generator γ]

theorem follows_matching (rows : Nat) (left right : List Int) :
    Follows (γ := γ) (matching rows left right) (matching rows left right) :=
  (follows_shuffle left).bind fun _ => (follows_shuffle right).bind fun _ => follows_pure _

theorem follows_drawMore (rows : Nat) (left right : List Int) (attempts : Nat)
    (pairs : List (Int × Int)) : Follows (γ := γ) (drawMore rows left right attempts pairs)
      (drawMore rows left right attempts pairs) := by
  induction attempts generalizing pairs with
  | zero => exact follows_pure _
  | succ attempts ih =>
    unfold drawMore
    split
    · refine (follows_choose left).bind fun l => (follows_choose right).bind fun r => ?_
      split
      · exact ih _
      · exact ih _
    · exact follows_pure _

end

/-! ## Steps that ask -/

/--
Where the second computation succeeds, so does the first with the same result and the same draws,
and the questions it asks fit the result.
-/
def Asks (x : Fill (Noted γ) α) (y : Fill γ α) (R : α → List Question → Prop) : Prop :=
  ∀ g a, (y.run.run g).1 = .ok a → ∃ questions, R a questions ∧
    ∀ asked, x.run.run ⟨g, asked⟩ = (.ok a, ⟨(y.run.run g).2, asked ++ questions⟩)

theorem asks_pure {a : α} {R : α → List Question → Prop} (h : R a []) :
    Asks (γ := γ) (pure a) (pure a) R := by
  intro g b hb
  obtain rfl : a = b := Except.ok.inj hb
  refine ⟨[], h, fun asked => ?_⟩
  rw [List.append_nil]
  rfl

theorem asks_throw {e : GenerationError} {R : α → List Question → Prop} :
    Asks (γ := γ) (throw e) (throw e) R := fun _ _ h => absurd h nofun

theorem Asks.mono {x : Fill (Noted γ) α} {y : Fill γ α} {R R' : α → List Question → Prop}
    (h : Asks x y R) (hr : ∀ a questions, R a questions → R' a questions) : Asks x y R' := by
  intro g a ha
  obtain ⟨questions, hq, hrun⟩ := h g a ha
  exact ⟨questions, hr a questions hq, hrun⟩

/-- What is asked first stands first in the notes. -/
theorem Asks.bind {x : Fill (Noted γ) α} {y : Fill γ α} {f : α → Fill (Noted γ) β}
    {f' : α → Fill γ β} {P : α → List Question → Prop} {R : β → List Question → Prop}
    (hx : Asks x y P)
    (hf : ∀ a first, P a first → Asks (f a) (f' a) fun b rest => R b (first ++ rest)) :
    Asks (x >>= f) (y >>= f') R := by
  intro g b hb
  cases ha : (y.run.run g).1 with
  | error e =>
    rw [run_bind_error ha] at hb
    exact absurd hb nofun
  | ok a =>
    rw [run_bind_ok ha] at hb ⊢
    -- both notes are there, one behind the other
    obtain ⟨first, hfirst, hrunx⟩ := hx g a ha
    obtain ⟨rest, hrest, hrunf⟩ := hf a first hfirst _ b hb
    refine ⟨first ++ rest, hrest, fun asked => ?_⟩
    rw [run_bind_ok (congrArg Prod.fst (hrunx asked)), hrunx asked, hrunf, List.append_assoc]

theorem asks_draw {d : Draw (Noted γ) α} {d' : Draw γ α} (h : d.Follows d') :
    Asks (draw d) (draw d') fun _ questions => questions = [] := by
  intro g a ha
  obtain rfl : (d'.run g).1 = a := Except.ok.inj ha
  refine ⟨[], rfl, fun asked => ?_⟩
  rw [List.append_nil]
  show (Except.ok (d.run _).1, (d.run _).2) = _
  rw [h]
  rfl

theorem asks_liftExcept (x : Except GenerationError α) :
    Asks (γ := γ) (liftM x) (liftM x) fun _ questions => questions = [] := by
  intro g a ha
  refine ⟨[], rfl, fun asked => ?_⟩
  rw [List.append_nil]
  exact Prod.ext ha rfl

theorem asks_mapM {f : α → Fill (Noted γ) β} {f' : α → Fill γ β} {F : α → β → List Question}
    {l : List α} (h : ∀ a, Asks (f a) (f' a) fun b questions => questions = F a b) :
    Asks (l.mapM f) (l.mapM f') fun bs questions =>
      bs.length = l.length ∧ questions = (l.zip bs).flatMap fun (a, b) => F a b := by
  induction l with
  | nil => exact asks_pure ⟨rfl, rfl⟩
  | cons a rest ih =>
    rw [List.mapM_cons, List.mapM_cons]
    refine (h a).bind fun b first hfirst => ih.bind fun bs more hmore => asks_pure ?_
    obtain ⟨hlength, rfl⟩ := hmore
    refine ⟨congrArg (· + 1) hlength, ?_⟩
    rw [hfirst, List.append_nil]
    rfl

theorem asks_source (source : ValueSource γ) (row : RowContext) (a : Attribute) :
    Asks (draw (source.noting row a)) (draw (source row a)) fun _ questions =>
      questions = [⟨row, a⟩] := by
  intro g v hv
  obtain rfl : ((source row a).run g).1 = v := Except.ok.inj hv
  exact ⟨[⟨row, a⟩], rfl, fun _ => rfl⟩

/-! ## Entities -/

variable [Generator γ] {source : ValueSource γ} {s : Schema} {rows : Nat} {e : Entity}

theorem parentKey_asks (k : ForeignKey) (pools : KeyPools) :
    Asks (γ := γ) (parentKey e k rows pools) (parentKey e k rows pools) fun _ questions =>
      questions = [] := by
  unfold parentKey
  split
  · exact asks_throw
  · split
    · -- keys are drawn, and no source is asked for them
      refine (asks_draw (follows_between _ _)).bind fun n first hfirst => asks_pure ?_
      rw [hfirst]
      rfl
    · refine (asks_draw (follows_choose _)).bind fun key? first hfirst => ?_
      split
      · refine asks_pure ?_
        rw [hfirst]
        rfl
      · exact asks_throw

/-- **For a cell the source is asked about the attribute, unless the column is a key.** -/
theorem cell_asks (c : Column) (row : RowContext) :
    Asks (cell source.noting e rows c row) (cell source e rows c row) fun _ questions =>
      questions = c.questions e row := by
  unfold cell Column.questions
  split
  · exact asks_pure rfl
  · split
    · rename_i k hk
      rw [hk]
      exact parentKey_asks k row.keys
    · rename_i a hk ha
      rw [hk, ha]
      -- the one place where the source is asked; the value by type is drawn without it
      refine (asks_source source row a).bind fun v? first hfirst => ?_
      split
      · refine asks_pure ?_
        rw [hfirst]
        rfl
      · refine (asks_draw a.follows_fallback).mono fun v rest hrest => ?_
        rw [hfirst, hrest]
        rfl
    · rename_i hk ha
      rw [hk, ha]
      exact asks_pure rfl

/-- The questions about a complete row, the first columns of which were there. -/
def rowQuestions (e : Entity) (row : RowContext) (columns : List Column) (first : Nat)
    (values : List Value) : List Question :=
  (columns.zipIdx first).flatMap fun (c, j) => c.questions e { row with values := values.take j }

theorem cells_asks (columns : List Column) (row : RowContext) :
    Asks (cells source.noting e rows row columns) (cells source e rows row columns)
      fun values questions => row.values <+: values ∧
        questions = rowQuestions e row columns row.values.length values := by
  induction columns generalizing row with
  | nil => exact asks_pure ⟨List.prefix_rfl, rfl⟩
  | cons c rest ih =>
    unfold cells
    refine (cell_asks c row).bind fun v first hfirst => ?_
    refine (ih { row with values := row.values ++ [v] }).mono fun values more hmore => ?_
    obtain ⟨hbefore, rfl⟩ := hmore
    have hvalues : row.values <+: values := (List.prefix_append _ _).trans hbefore
    refine ⟨hvalues, ?_⟩
    -- the cells in front of the column are those that the row began with
    have htake : values.take row.values.length = row.values :=
      (List.prefix_iff_eq_take.mp hvalues).symm
    have hlength : row.values.length + 1 = (row.values ++ [v]).length := by simp
    unfold rowQuestions
    rw [List.zipIdx_cons, List.flatMap_cons, hfirst]
    dsimp only
    rw [htake, hlength]

/-- The questions about the table of an entity that comes after the tables of `p`. -/
def tableQuestions (s : Schema) (p : Progress) (e : Entity) (t : Table) : List Question :=
  t.rows.zipIdx.flatMap fun (r, i) => rowQuestions e (rowStart s p e i) (s.columns e.name) 0 r

theorem entityTable_asks (p : Progress) :
    Asks (entityTable source.noting s rows p e) (entityTable source s rows p e) fun t questions =>
      questions = tableQuestions s p e t := by
  unfold entityTable
  refine Asks.bind (asks_mapM fun i =>
    (cells_asks (s.columns e.name) (rowStart s p e i)).mono fun _ _ h => h.2) ?_
  intro filled first hfirst
  obtain ⟨hlength, rfl⟩ := hfirst
  refine asks_pure ?_
  -- the rows are numbered as they were asked for
  have hrows : filled.zipIdx = ((List.range rows).zip filled).map Prod.swap := by
    rw [List.zip_swap, List.zipIdx_eq_zip_range', hlength, List.length_range, List.range_eq_range']
  unfold tableQuestions
  rw [List.append_nil]
  show _ = filled.zipIdx.flatMap _
  rw [hrows, List.flatMap_map]
  rfl

theorem entity_asks (p : Progress) (name : String) :
    Asks (entity source.noting s rows p name) (entity source s rows p name) fun p' questions =>
      ∃ e t, s.entity? name = some e ∧ p' = withEntity p rows name e t ∧
        questions = tableQuestions s p e t := by
  unfold entity
  split
  · exact asks_throw
  · rename_i e he
    refine (entityTable_asks p).bind fun t first hfirst => asks_pure ⟨e, t, he, rfl, ?_⟩
    rw [List.append_nil, hfirst]

/-! ## Join tables -/

theorem joinTable_asks (p : Progress) (t : JoinTable) :
    Asks (γ := γ) (joinTable s rows p t) (joinTable s rows p t) fun _ questions =>
      questions = [] := by
  unfold joinTable
  split
  · exact asks_pure rfl
  · refine (asks_liftExcept _).bind fun left first hleft => ?_
    refine (asks_liftExcept _).bind fun right second hright => ?_
    refine (asks_draw (follows_matching _ _ _)).bind fun pairs third hmatching => ?_
    refine (asks_draw (follows_drawMore _ _ _ _ _)).bind fun pairs rest hmore => asks_pure ?_
    rw [hleft, hright, hmatching, hmore]
    rfl

theorem join_asks (p : Progress) (t : JoinTable) :
    Asks (γ := γ) (join s rows p t) (join s rows p t) fun _ questions => questions = [] := by
  refine (joinTable_asks p t).bind fun filled first hfirst => asks_pure ?_
  rw [hfirst]
  rfl

end Fill

/-! ## Runs -/

namespace Generation

open Fill

variable [Generator γ] {source : ValueSource γ} {s : Schema} {rows : Nat}

/-- The questions about the table at a place, the tables being those of the names. -/
def questionsAt (s : Schema) (rows : Nat) (names : List String) (tables : List Table) (k : Nat) :
    List Question :=
  match names[k]?.bind s.entity?, tables[k]? with
  | some e, some t =>
    tableQuestions s ⟨tables.take k, poolsOf s rows (names.take k)⟩ e t
  | _, _ => []

/-- Where the tables of a progress come first, the next place is that of the next entity. -/
theorem questionsAt_length {done names : List String} {name : String} {p : Progress} {e : Entity}
    {t : Table} {tables : List Table} (h : Filled source s rows done p)
    (he : s.entity? name = some e) (ht : p.tables ++ [t] <+: tables) :
    questionsAt s rows (done ++ name :: names) tables done.length = tableQuestions s p e t := by
  obtain ⟨more, rfl⟩ := ht
  have hname : (done ++ name :: names)[done.length]?.bind s.entity? = some e := by
    rw [List.getElem?_append_right (Nat.le_refl _), Nat.sub_self]
    exact he
  have htable : (p.tables ++ [t] ++ more)[done.length]? = some t := by
    rw [← h.length, List.append_assoc, List.getElem?_append_right (Nat.le_refl _), Nat.sub_self]
    rfl
  -- what the questions are read off at this place: the entity, its table and all before it
  have hbefore : (p.tables ++ [t] ++ more).take done.length = p.tables := by
    rw [List.append_assoc]
    exact List.take_left' h.length
  have hpools : poolsOf s rows ((done ++ name :: names).take done.length) = p.pools := by
    rw [List.take_left' rfl, h.pools]
  unfold questionsAt
  rw [hname, htable, hbefore, hpools]

/-- **The run with notes goes where the run without does and notes what its tables ask.** -/
theorem leads_entities_asks {names done : List String} {x y : Progress × γ}
    (h : Filled source s rows done x.1) (hl : Leads (names.map (entityStep source s rows)) x y)
    (asked : List Question) :
    x.1.tables <+: y.1.tables ∧
    Leads (names.map (entityStep source.noting s rows)) (x.1, ⟨x.2, asked⟩)
      (y.1, ⟨y.2, asked ++ (List.range' done.length names.length).flatMap
        (questionsAt s rows (done ++ names) y.1.tables)⟩) := by
  induction names generalizing done x asked with
  | nil =>
    cases hl
    refine ⟨List.prefix_rfl, ?_⟩
    rw [List.length_nil, List.range'_zero, List.flatMap_nil, List.append_nil]
    exact .nil
  | cons name names ih =>
    cases hl with
    | @cons _ _ p p' g _ hstep hrest =>
      obtain ⟨e, t, he, hmade, rfl⟩ := entity_ensures.of_ok hstep
      obtain ⟨questions, ⟨e', t', he', hp', rfl⟩, hrun⟩ := entity_asks p name g _ hstep
      -- both speak of the table that was added
      obtain rfl := Option.some.inj (he.symm.trans he')
      obtain rfl : t = t' :=
        List.singleton_inj.mp (List.append_cancel_left (congrArg Progress.tables hp'))
      obtain ⟨hbefore, hleads⟩ :=
        ih (filled_withEntity h he hmade) hrest (asked ++ tableQuestions s p e t)
      refine ⟨(List.prefix_append _ _).trans hbefore, ?_⟩
      rw [List.append_assoc, List.append_assoc, List.length_append] at hleads
      rw [List.length_cons, List.range'_succ, List.flatMap_cons, questionsAt_length h he hbefore]
      exact leads_cons (hrun asked) hleads

theorem leads_joins_asks {joins : List JoinTable} {x y : Progress × γ}
    (hl : Leads (joins.map (joinStep s rows)) x y) (asked : List Question) :
    Leads (joins.map (joinStep s rows)) (x.1, ⟨x.2, asked⟩) (y.1, Noted.mk y.2 asked) := by
  induction joins generalizing x with
  | nil =>
    cases hl
    exact .nil
  | cons join joins ih =>
    cases hl with
    | @cons _ _ p p' g _ hstep hrest =>
      obtain ⟨_, rfl, hrun⟩ := join_asks p join g p' hstep
      have hsilent := hrun asked
      rw [List.append_nil] at hsilent
      exact leads_cons hsilent (ih hrest)

/-- Tables behind those of the entities make no difference to the questions. -/
theorem questionsAt_append {names : List String} {tables more : List Table} {k : Nat}
    (hk : k < tables.length) :
    questionsAt s rows names (tables ++ more) k = questionsAt s rows names tables k := by
  unfold questionsAt
  rw [List.getElem?_append_left hk, List.take_append_of_le_length (Nat.le_of_lt hk)]

end Generation

/-! ## Datasets -/

namespace Plan

open Generation

variable [Generator γ] {p : Plan} {source : ValueSource γ} {rows : Nat} {g : γ} {d : Dataset}

/-- The questions about the tables of a dataset, in the order of the cells. -/
def questions (p : Plan) (rows : Nat) (d : Dataset) : List Question :=
  (List.range p.order.entities.length).flatMap
    (questionsAt p.schema rows p.order.entities d.tables)

/-- **A source that notes its questions gives the same dataset, from which the notes are known.** -/
theorem dataset_asks (h : ((p.dataset source rows).run g).1 = .ok d) (asked : List Question) :
    (p.dataset source.noting rows).run ⟨g, asked⟩ =
      (.ok d, ⟨((p.dataset source rows).run g).2, asked ++ p.questions rows d⟩) := by
  obtain ⟨y, hl, htables⟩ := leads_of_ok h
  obtain ⟨z, hentities, hjoins⟩ := leads_append hl
  have hz := filled_leads (filled_start source p.schema rows) hentities
  rw [List.nil_append] at hz
  obtain ⟨_, hnoted⟩ := leads_entities_asks (filled_start source p.schema rows) hentities asked
  obtain ⟨joins, hy, _⟩ :=
    joined_leads (hz.pools ▸ fullPools_poolsOf p.schema rows p.order.entities) hjoins
  -- join tables stand behind all entities, so the questions are read off without them
  have hquestions : p.questions rows d = (List.range' 0 p.order.entities.length).flatMap
      (questionsAt p.schema rows p.order.entities z.1.tables) := by
    unfold questions
    rw [List.range_eq_range']
    refine List.flatMap_congr fun k hk => ?_
    have hlt : k < z.1.tables.length := by
      rw [hz.length]
      simpa using hk
    rw [htables, hy, questionsAt_append hlt]
  have hplain : (p.generate source rows).run g = (⟨y.1.tables, none⟩, y.2) := run_of_leads hl
  have hrun : (p.generate source.noting rows).run ⟨g, asked⟩ = (⟨y.1.tables, none⟩,
      ⟨y.2, asked ++ (List.range' 0 p.order.entities.length).flatMap
        (questionsAt p.schema rows p.order.entities z.1.tables)⟩) :=
    run_of_leads (leads_trans hnoted (leads_joins_asks hjoins _))
  have hdataset : d = ⟨y.1.tables⟩ := by rw [← htables]
  unfold dataset
  rw [StateT.run_bind, StateT.run_bind, hplain, hrun, hquestions, hdataset]
  rfl

end Plan

end Crowfoot
