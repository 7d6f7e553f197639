import Crowfoot.Proofs.Generation
import Crowfoot.Proofs.Meeting
import Crowfoot.Proofs.Strictness
import Crowfoot.Random.SplitMix
import Crowfoot.Vocabulary.Standard

/-!
# What is warned about

A text is warned about where it looks like a mistake: a block that is never closed, a name that only
relationships mention, a pair that is joined in both orders, a reference that closes a cycle. The
warnings can be read off the lines, the diagram and the order, and there are no others.

The scan over the relationships notes a name or a pair when it does not know it yet. What it knows
is what the relationships before it mention, by `Reflects`. So a warning is where a name or a pair
occurs first in the whole diagram, and a relationship that repeats an earlier one has none.
-/

namespace Crowfoot

open Text

/-- The notes that are warnings. -/
def warningsAmong (notes : List Diagnostic) : List Diagnostic := notes.filter (·.level = .warn)

theorem warningsAmong_append (notes notes' : List Diagnostic) :
    warningsAmong (notes ++ notes') = warningsAmong notes ++ warningsAmong notes' :=
  List.filter_append notes notes'

/-! ## A block that is never closed -/

namespace Line

/-- The name of the block that the line opens. -/
def opens? : Line → Option String
  | entityOpen name => some name
  | _ => none

end Line

/-- The block that is still open behind the lines: the last line to begin or end one begins it. -/
def openBlock? (lines : List Line) : Option String :=
  (lines.filter (·.endsBlock)).getLast?.bind Line.opens?

namespace Reading

/-- A line that begins or ends a block decides which block is open after it. -/
theorem step_block (r : Reading) (number : Nat) (line : Line) :
    (r.step number line).block.map Entity.name =
      if line.endsBlock then line.opens? else r.block.map Entity.name := by
  cases line with
  | entityClose =>
    show r.closeBlock.block.map Entity.name = none
    rw [closeBlock_block]
    rfl
  | attr a =>
    show (r.block.map _).map Entity.name = r.block.map Entity.name
    rw [Option.map_map]
    rfl
  | _ => rfl

theorem steps_block (r : Reading) (number : Nat) (lines : List Line) :
    (r.steps number lines).block.map Entity.name =
      (lines.filter (·.endsBlock)).getLast?.elim (r.block.map Entity.name) Line.opens? := by
  induction lines generalizing r number with
  | nil => rfl
  | cons line rest ih =>
    rw [steps, ih, step_block]
    by_cases h : line.endsBlock
    · rw [List.filter_cons_of_pos h, List.getLast?_cons, if_pos h]
      cases (rest.filter (·.endsBlock)).getLast? <;> rfl
    · rw [List.filter_cons_of_neg h, if_neg h]

theorem warningsAmong_closeNotes (r : Reading) : warningsAmong r.closeNotes = [] := by
  unfold closeNotes
  cases r.block with
  | none => rfl
  | some e =>
    dsimp only
    split <;> rfl

theorem warningsAmong_stepNotes (r : Reading) (number : Nat) (raw : List Char) (line : Line) :
    warningsAmong (r.stepNotes number raw line) = [] := by
  have hclose := warningsAmong_closeNotes r
  cases line with
  | entityOpen name =>
    simp only [stepNotes]
    cases r.block with
    | none => rfl
    | some e => exact hclose
  | entityClose =>
    simp only [stepNotes]
    split
    · rfl
    · exact hclose
  | attr a =>
    simp only [stepNotes]
    split <;> rfl
  | _ => rfl

theorem warningsAmong_endNotes (r : Reading) :
    warningsAmong r.endNotes = ((r.block.map Entity.name).map .blockUnclosed).toList := by
  have hclose := warningsAmong_closeNotes r
  unfold endNotes
  rw [warningsAmong_append]
  cases r.block with
  | none => rfl
  | some e => exact congrArg (.blockUnclosed e.name :: · ++ []) hclose

/-- Nothing is warned about while the lines are read, only at their end. -/
theorem warningsAmong_notes (r : Reading) (number : Nat) (raws : List (List Char)) :
    warningsAmong (r.notes number raws) =
      (((r.steps number (raws.map Line.ofText)).block.map Entity.name).map
        .blockUnclosed).toList := by
  induction raws generalizing r number with
  | nil => exact warningsAmong_endNotes r
  | cons raw rest ih =>
    unfold notes
    rw [warningsAmong_append, warningsAmong_stepNotes, List.nil_append, ih]
    rfl

end Reading

theorem Diagram.warningsAmong_notes (text : String) :
    warningsAmong (notes text) = ((openBlock? (readLines text)).map .blockUnclosed).toList := by
  unfold notes
  rw [Reading.warningsAmong_notes, Reading.steps_block]
  unfold openBlock? readLines
  cases (((lines text.toList).map Line.ofText).filter (·.endsBlock)).getLast? <;> rfl

/-! ## Names and pairs that occur first -/

section

variable {α : Type} {p : α → Bool} {before after : List α}

theorem findIdx?_eq_length_iff {a : α} :
    (before ++ a :: after).findIdx? p = some before.length ↔
      p a = true ∧ ∀ x ∈ before, p x = false := by
  induction before with
  | nil =>
    rw [List.nil_append, List.findIdx?_cons]
    cases p a <;> simp
  | cons b before ih =>
    rw [List.cons_append, List.findIdx?_cons, List.length_cons, List.forall_mem_cons]
    cases hb : p b with
    | true => simp
    | false => simp [← ih]

theorem any_findIdx?_lt_iff :
    ((before ++ after).findIdx? p).any (· < before.length) = true ↔ ∃ x ∈ before, p x = true := by
  rw [List.findIdx?_append, ← List.any_eq_true, ← List.findIdx?_isSome]
  cases hfind : before.findIdx? p with
  | none => cases after.findIdx? p <;> simp
  | some i =>
    obtain ⟨hi, _⟩ := List.findIdx?_eq_some_iff_getElem.mp hfind
    simp [hi]

end

theorem Relationship.mem_ends {r : Relationship} {name : String} :
    name ∈ r.ends ↔ name = r.left ∨ name = r.right := by
  unfold ends
  split
  · rename_i h
    simp [h]
  · simp

namespace Diagram

variable {d D : Diagram} {r : Relationship} {rest : List Relationship}

/-- The place of the first relationship that names the entity. -/
def firstNaming? (d : Diagram) (name : String) : Option Nat :=
  d.relationships.findIdx? fun r => name ∈ r.ends

/-- The place of the first relationship that pairs the two in that order. -/
def firstPairing? (d : Diagram) (left right : String) : Option Nat :=
  d.relationships.findIdx? fun r => r.Pairs ∧ r.pair = (left, right)

/-- The relationship there is the first in its order of a pair already joined in the other. -/
def Turns (d : Diagram) (i : Nat) (r : Relationship) : Prop :=
  r.Pairs ∧ r.left ≠ r.right ∧ d.firstPairing? r.left r.right = some i ∧
    (d.firstPairing? r.right r.left).any (· < i) = true

instance (d : Diagram) (i : Nat) (r : Relationship) : Decidable (d.Turns i r) :=
  inferInstanceAs (Decidable (_ ∧ _ ∧ _ ∧ _))

/-- What is warned about at the relationship in that place. -/
def warningsAt (d : Diagram) (i : Nat) (r : Relationship) : List Diagnostic :=
  (r.ends.filter fun name => name ∉ d.entities ∧ d.firstNaming? name = some i).map
      (.placeholder · r.line)
    ++ if d.Turns i r then [.joinBothWays (joinName r.left r.right) r.line] else []

/-- What is warned about at the relationships. -/
def warnings (d : Diagram) : List Diagnostic := (d.relationships.mapIdx d.warningsAt).flatten

/-- A relationship joins the pair in that order. -/
def Joins (d : Diagram) (pair : String × String) : Prop :=
  ∃ r ∈ d.relationships, r.Pairs ∧ r.pair = pair

theorem joins_iff {left right : String} :
    d.Joins (left, right) ↔ ∃ t ∈ d.joinTables, t.left.entity = left ∧ t.right.entity = right := by
  constructor
  · intro h
    obtain ⟨r, hr, hpairs, hpair⟩ := h
    obtain ⟨rfl, rfl⟩ := Prod.mk.inj hpair
    exact exists_joinTable (mem_pairings.mpr ⟨hr, hpairs⟩)
  · intro h
    obtain ⟨t, ht, rfl, rfl⟩ := h
    obtain ⟨r, hr, rfl⟩ := mem_joinTables ht
    obtain ⟨hr, hpairs⟩ := mem_pairings.mp hr
    exact ⟨r, hr, hpairs, rfl⟩

/-- A name occurs first where it has not been mentioned before. -/
theorem firstNaming?_iff (hD : D.relationships = d.relationships ++ r :: rest) {name : String}
    (hend : name ∈ r.ends) :
    D.firstNaming? name = some d.relationships.length ↔ name ∉ d.ends := by
  unfold firstNaming?
  rw [hD, findIdx?_eq_length_iff, mem_ends]
  simp [hend, Relationship.mem_ends]

/-- A pair turns where it has been joined in the other order only. -/
theorem turns_iff (hD : D.relationships = d.relationships ++ r :: rest) :
    D.Turns d.relationships.length r ↔ r.Pairs ∧ r.left ≠ r.right ∧ ¬ d.Joins (r.left, r.right) ∧
      d.Joins (r.right, r.left) := by
  unfold Turns firstPairing? Joins
  rw [hD, findIdx?_eq_length_iff, any_findIdx?_lt_iff]
  simp only [decide_eq_true_eq, decide_eq_false_iff_not, not_exists, not_and]
  constructor
  · intro h
    obtain ⟨hpairs, hne, ⟨_, hnew⟩, hother⟩ := h
    exact ⟨hpairs, hne, hnew, hother⟩
  · intro h
    obtain ⟨hpairs, hne, hnew, hother⟩ := h
    exact ⟨hpairs, hne, ⟨⟨hpairs, rfl⟩, hnew⟩, hother⟩

end Diagram

namespace Schema

variable {s s' : Schema} {d D : Diagram} {r r' : Relationship} {rest : List Relationship}
  {mode : Undeclared}

/-! ## The scan over the relationships -/

theorem relationNotes_cons (hs : s.relate mode r = .ok s') :
    s.relationNotes mode (r :: rest) =
      s.endNotes r ++ (s.withBoth r).linkNotes r ++ s'.relationNotes mode rest := by
  obtain ⟨hends, hlink⟩ := relate_ok_iff.mp hs
  rw [relationNotes, withEnds_ok_iff.mpr ⟨hends, rfl⟩]
  dsimp only
  rw [hlink]

/-- The names that are noted are those that occur here first. -/
theorem warningsAmong_endNotes (h : s.Reflects d) (he : D.entities = d.entities)
    (hD : D.relationships = d.relationships ++ r :: rest) :
    warningsAmong (s.endNotes r) =
      (r.ends.filter fun name => name ∉ D.entities ∧
        D.firstNaming? name = some d.relationships.length).map (.placeholder · r.line) := by
  -- what the schema does not have yet is what nothing has named yet
  have hnew : ∀ name ∈ r.ends, (name ∉ s.entities ↔
      name ∉ D.entities ∧ D.firstNaming? name = some d.relationships.length) := by
    intro name hname
    rw [h.mem_entities_iff, not_or, he, Diagram.firstNaming?_iff hD hname]
  have hall : s.endNotes r = (r.ends.filter fun name => name ∉ D.entities ∧
      D.firstNaming? name = some d.relationships.length).map (.placeholder · r.line) := by
    unfold endNotes
    rw [List.filter_congr fun name hname => decide_eq_decide.mpr (hnew name hname)]
  unfold warningsAmong
  rw [hall, List.filter_eq_self]
  intro note hnote
  obtain ⟨name, _, rfl⟩ := List.mem_map.mp hnote
  rfl

/-- A pair whose table has no name yet has not been joined. -/
theorem not_joins_of_free (hjoins : s.joinTables = d.joinTables) {left right : String}
    (hfree : ∀ t ∈ s.joinTables, ¬ SameName t.name (joinName left right)) :
    ¬ d.Joins (left, right) := by
  intro hjoined
  obtain ⟨t, ht, hleft, hright⟩ := Diagram.joins_iff.mp hjoined
  obtain ⟨r, _, rfl⟩ := Diagram.mem_joinTables ht
  refine hfree _ (hjoins ▸ ht) ?_
  exact congrArg₂ (fun left right => foldCase (joinName left right)) hleft hright

/-- The pair that is noted is one that turns here. -/
theorem warningsAmong_linkNotes (hjoins : s.joinTables = d.joinTables)
    (hD : D.relationships = d.relationships ++ r :: rest) (hs : s.addLink r = .ok s') :
    warningsAmong (s.linkNotes r) =
      if D.Turns d.relationships.length r then [.joinBothWays (joinName r.left r.right) r.line]
      else [] := by
  rcases r.reference_or_pairs with ⟨child, parent, href⟩ | hpairs
  · obtain ⟨hl, hnot⟩ := Relationship.link_of_reference href
    rw [if_neg fun hturns => hnot hturns.1, linkNotes, hl]
    dsimp only
    split <;> rfl
  · obtain ⟨hl, _⟩ := Relationship.link_of_pairs hpairs
    rw [addLink, hl] at hs
    rw [linkNotes, hl]
    dsimp only
    cases hfind : s.joinTable? (joinName r.left r.right) with
    | some t =>
      -- the table is one for this very pair, so the pair was joined before
      have hpair := exists_addPairing_iff.mp ⟨s', hs⟩ t hfind
      have hjoined : d.Joins (r.left, r.right) :=
        Diagram.joins_iff.mpr ⟨t, hjoins ▸ (joinTable?_some hfind).1, hpair⟩
      dsimp only
      rw [if_neg fun hturns => ((Diagram.turns_iff hD).mp hturns).2.2.1 hjoined, if_pos hpair]
      rfl
    | none =>
      have hnew := not_joins_of_free hjoins (joinTable?_none hfind)
      have hturns : D.Turns d.relationships.length r ↔ d.Joins (r.right, r.left) := by
        refine (Diagram.turns_iff hD).trans ⟨fun h => h.2.2.2, fun h => ⟨hpairs, ?_, hnew, h⟩⟩
        intro hsame
        rw [hsame] at h hnew
        exact hnew h
      have hother : (s.joinTables.any fun t => t.left.entity = r.right ∧ t.right.entity = r.left) =
          true ↔ D.Turns d.relationships.length r := by
        rw [List.any_eq_true, hjoins, hturns, Diagram.joins_iff]
        simp only [decide_eq_true_eq]
      dsimp only
      rw [if_congr hother rfl rfl]
      split <;> rfl

/-- What is noted about a relationship that is accepted is what occurs in its place first. -/
theorem warningsAmong_relate (h : s.Reflects d) (he : D.entities = d.entities)
    (hD : D.relationships = d.relationships ++ r :: rest) (hs : s.relate mode r = .ok s') :
    warningsAmong (s.endNotes r ++ (s.withBoth r).linkNotes r) =
      D.warningsAt d.relationships.length r := by
  have hjoins : (s.withBoth r).joinTables = d.joinTables := (withBoth_joinTables s r).trans h.joins
  rw [warningsAmong_append, warningsAmong_endNotes h he hD,
    warningsAmong_linkNotes hjoins hD (relate_ok_iff.mp hs).2]
  rfl

/-- **Along the relationships a warning is where a name or a pair occurs first.** -/
theorem warningsAmong_relationNotes (h : s.Reflects d) (he : D.entities = d.entities)
    (hD : D.relationships = d.relationships ++ rest) (hs : s.relateAll mode rest = .ok s') :
    warningsAmong (s.relationNotes mode rest) =
      (rest.mapIdx fun i => D.warningsAt (i + d.relationships.length)).flatten := by
  induction rest generalizing s d with
  | nil =>
    unfold relationNotes
    split <;> rfl
  | cons r rest ih =>
    obtain ⟨s₁, h₁, h₂⟩ := bind_eq_ok.mp hs
    -- the places of the rest are counted behind the relationships that the schema has seen
    have hlength : ∀ i, i + (d.add r).relationships.length = i + 1 + d.relationships.length := by
      intro i
      show i + (d.relationships ++ [r]).length = _
      rw [List.length_append, List.length_singleton]
      omega
    have hrest := ih (reflects_relate h h₁) he (by rw [hD]; simp [Diagram.add]) h₂
    simp only [hlength] at hrest
    rw [relationNotes_cons h₁, warningsAmong_append, warningsAmong_relate h he hD h₁, hrest,
      List.mapIdx_cons, List.flatten_cons, Nat.zero_add]

theorem warningsAmong_notes (hs : resolve mode d = .ok s) :
    warningsAmong (notes mode d) = d.warnings :=
  warningsAmong_relationNotes (reflects_ofEntities d) rfl (List.nil_append _).symm
    (resolve_ok_iff.mp hs).1

/-! ## Relationships that repeat an earlier one -/

/-- Relationships with one demand have the same ends. -/
theorem ends_of_link (h : r'.link = r.link) :
    r'.left = r.left ∧ r'.right = r.right ∨ r'.left = r.right ∧ r'.right = r.left := by
  unfold Relationship.link at h
  split at h <;> split at h <;> simp_all

theorem mem_ends_of_link (hr : r' ∈ d.relationships) (hlink : r'.link = r.link) {name : String}
    (hname : name = r.left ∨ name = r.right) : name ∈ d.ends := by
  refine Diagram.mem_ends.mpr ⟨r', hr, ?_⟩
  rcases ends_of_link hlink with ⟨hl, hr⟩ | ⟨hl, hr⟩ <;> rw [hl, hr]
  · exact hname
  · exact hname.symm

theorem joins_of_link (hr : r' ∈ d.relationships) (hlink : r'.link = r.link) (hpairs : r.Pairs) :
    d.Joins (r.left, r.right) := by
  rw [(Relationship.link_of_pairs hpairs).1] at hlink
  rcases r'.reference_or_pairs with ⟨child, parent, href⟩ | hpairs'
  · rw [(Relationship.link_of_reference href).1] at hlink
    exact absurd hlink nofun
  · rw [(Relationship.link_of_pairs hpairs').1] at hlink
    obtain ⟨hleft, hright⟩ := Link.pairing.inj hlink
    exact ⟨r', hr, hpairs', Prod.ext hleft hright⟩

/-- A repeated relationship finds its entities and its key or table there. -/
theorem relate_repeated (h : s.Reflects d) (hr : r' ∈ d.relationships) (hlink : r'.link = r.link)
    (hs : s.relate mode r = .ok s') : s' = s := by
  have hends : ∀ name, name = r.left ∨ name = r.right → name ∈ s.entities := fun _ hname =>
    h.mem_entities_iff.mpr (Or.inr (mem_ends_of_link hr hlink hname))
  -- no entity is made, and the link is looked up where the first one put it
  have hboth : s.withBoth r = s := by
    unfold withBoth ensured
    rw [if_pos (hends r.left (Or.inl rfl)), if_pos (hends r.right (Or.inr rfl))]
  obtain ⟨_, hs⟩ := relate_ok_iff.mp hs
  rw [hboth, addLink, ← hlink] at hs
  rcases r'.reference_or_pairs with ⟨child, parent, href⟩ | hpairs
  · rw [(Relationship.link_of_reference href).1] at hs
    have hkey : foldCase (s.referenceColumn child parent) ∈
        (s.keysOf child).map (foldCase ·.column) := by
      show foldCase (s.referenceTo child parent).column ∈ _
      rw [referenceTo_eq_keyTo h.entities, h.keys]
      have hparent : parent ∈ d.parentsOf child :=
        Diagram.mem_parentsOf.mpr (List.mem_filterMap.mpr ⟨r', hr, href⟩)
      exact mem_map_firsts.mpr (List.mem_map_of_mem (List.mem_map_of_mem hparent))
    rw [← Except.ok.inj hs]
    exact if_pos (hasKeyColumn_iff.mpr hkey)
  · rw [(Relationship.link_of_pairs hpairs).1] at hs
    rcases addPairing_cases hs with ⟨_, rfl⟩ | ⟨hfree, _⟩
    · rfl
    · exact absurd ⟨r', hr, hpairs, rfl⟩ (not_joins_of_free h.joins hfree)

/-- A repeated relationship has nothing that occurs first. -/
theorem warningsAt_repeated (hD : D.relationships = d.relationships ++ r :: rest)
    (hr : r' ∈ d.relationships) (hlink : r'.link = r.link) :
    D.warningsAt d.relationships.length r = [] := by
  have hturns : ¬ D.Turns d.relationships.length r := by
    intro h
    obtain ⟨hpairs, _, hnew, _⟩ := (Diagram.turns_iff hD).mp h
    exact hnew (joins_of_link hr hlink hpairs)
  unfold Diagram.warningsAt
  rw [if_neg hturns, List.append_nil, List.map_eq_nil_iff, List.filter_eq_nil_iff]
  intro name hname hfirst
  have hnew := (Diagram.firstNaming?_iff hD hname).mp (of_decide_eq_true hfirst).2
  exact hnew (mem_ends_of_link hr hlink (Relationship.mem_ends.mp hname))

/-- **A relationship that repeats an earlier one adds nothing to the schema or the warnings.** -/
theorem relateAll_drop {before : List Relationship} (h : s.Reflects d)
    (hr : ∃ r' ∈ d.relationships ++ before, r'.link = r.link)
    (hs : s.relateAll mode (before ++ r :: rest) = .ok s') :
    s.relateAll mode (before ++ rest) = .ok s' ∧
      warningsAmong (s.relationNotes mode (before ++ r :: rest)) =
        warningsAmong (s.relationNotes mode (before ++ rest)) := by
  induction before generalizing s d with
  | nil =>
    obtain ⟨r', hr, hlink⟩ := hr
    rw [List.append_nil] at hr
    obtain ⟨s₁, h₁, h₂⟩ := bind_eq_ok.mp hs
    -- the repeated line itself: the schema has its link already, and there is nothing new to warn
    -- of
    obtain rfl := relate_repeated h hr hlink h₁
    have hstep := warningsAmong_relate (D := ⟨d.entities, d.relationships ++ r :: rest⟩)
      h rfl rfl h₁
    refine ⟨h₂, ?_⟩
    rw [List.nil_append, List.nil_append, relationNotes_cons h₁, warningsAmong_append, hstep,
      warningsAt_repeated rfl hr hlink, List.nil_append]
  | cons r₀ before ih =>
    obtain ⟨s₁, h₁, h₂⟩ := bind_eq_ok.mp hs
    -- a line before it is one more that the schema has seen
    have hr₀ : ∃ r' ∈ (d.add r₀).relationships ++ before, r'.link = r.link := by
      simpa [Diagram.add] using hr
    obtain ⟨hrest, hnotes⟩ := ih (reflects_relate h h₁) hr₀ h₂
    refine ⟨bind_eq_ok.mpr ⟨s₁, h₁, hrest⟩, ?_⟩
    rw [List.cons_append, List.cons_append, relationNotes_cons h₁, relationNotes_cons h₁,
      warningsAmong_append, warningsAmong_append _ (s₁.relationNotes mode _), hnotes]

theorem resolve_drop {before : List Relationship} (hd : d.relationships = before ++ r :: rest)
    (hr : ∃ r' ∈ before, r'.link = r.link) (hs : resolve mode d = .ok s) :
    resolve mode ⟨d.entities, before ++ rest⟩ = .ok s ∧
      Diagram.warnings ⟨d.entities, before ++ rest⟩ = d.warnings := by
  obtain ⟨hall, hfree⟩ := resolve_ok_iff.mp hs
  rw [hd] at hall
  obtain ⟨hrest, hnotes⟩ := relateAll_drop (reflects_ofEntities d) hr hall
  have hdrop : resolve mode ⟨d.entities, before ++ rest⟩ = .ok s :=
    resolve_ok_iff.mpr ⟨hrest, hfree⟩
  refine ⟨hdrop, ?_⟩
  rw [← warningsAmong_notes hs, ← warningsAmong_notes hdrop]
  unfold notes
  rw [hd]
  exact hnotes.symm

end Schema

/-! ## The order and the data -/

/-- The warning about a reference that closes a cycle. -/
def cycleWarning (e : String × String) : Diagnostic := .cycleClosed e.1 e.2

/-- **A walk warns about the back edges that it adds, as it adds them.** -/
theorem Walk.runNotes_eq (s : Schema) (w : Walk) :
    (run s w).backEdges.reverse.map cycleWarning =
      w.backEdges.reverse.map cycleWarning ++ runNotes s w := by
  fun_induction runNotes s w with
  | case1 => rw [run, List.append_nil]
  | case2 _ _ _ _ _ ih => rw [run, ih]
  -- the walk goes the way of the mark that the notes have found
  | case3 _ _ _ _ _ _ _ h ih =>
    rw [run]
    split
    case h_1 => exact ih
    all_goals
      rename_i hother
      exact absurd (h.symm.trans hother) nofun
  | case4 _ _ _ _ _ _ _ h ih =>
    rw [run]
    split
    case h_2 =>
      rw [ih, List.reverse_cons, List.map_append, List.append_assoc]
      rfl
    all_goals
      rename_i hother
      exact absurd (h.symm.trans hother) nofun
  | case5 _ _ _ _ _ _ _ h ih =>
    rw [run]
    split
    case h_3 => exact ih
    all_goals
      rename_i hother
      exact absurd (h.symm.trans hother) nofun

theorem Walk.visitNotes_eq (s : Schema) (w : Walk) (roots : List String) :
    (roots.foldl (visit s) w).backEdges.reverse.map cycleWarning =
      w.backEdges.reverse.map cycleWarning ++ visitNotes s w roots := by
  induction roots generalizing w with
  | nil => exact (List.append_nil _).symm
  | cons root rest ih =>
    -- a root that is marked already is passed over without a note
    have hvisit : (visit s w root).backEdges.reverse.map cycleWarning =
        w.backEdges.reverse.map cycleWarning ++ if root ∈ w.marks then []
          else runNotes s
            { w with marks := w.marks.insert root .entered, path := [s.frame root] } := by
      unfold visit
      split
      · rw [List.append_nil]
      · exact runNotes_eq s _
    rw [List.foldl_cons, ih, hvisit, List.append_assoc]
    rfl

theorem DependencyOrder.warningsAmong_notes (s : Schema) :
    warningsAmong (notes s) = (ofSchema s).backEdges.map fun e => .cycleClosed e.1 e.2 := by
  have hwalk := Walk.visitNotes_eq s Walk.start s.entities.keys
  rw [show Walk.start.backEdges = [] from rfl, List.reverse_nil, List.map_nil,
    List.nil_append] at hwalk
  unfold notes
  rw [← hwalk, warningsAmong_append]
  show warningsAmong _ ++ [] = _
  rw [List.append_nil]
  refine List.filter_eq_self.mpr fun note hnote => ?_
  obtain ⟨e, _, rfl⟩ := List.mem_map.mp hnote
  rfl

/-- No join table is short, so there is nothing to warn about. -/
theorem Generation.warningsAmong_notes {γ : Type} [Generator γ] (source : ValueSource γ)
    (s : Schema) (o : DependencyOrder) (rows : Nat) (g : γ) :
    warningsAmong (((ofSchema source s o rows).run g).1.notes rows) = [] := by
  refine List.filter_eq_nil_iff.mpr fun note hnote => ?_
  obtain ⟨t, ht, hnote⟩ := List.mem_flatMap.mp hnote
  have hrows := length_rows ht
  unfold tableNotes at hnote
  rw [hrows, if_neg (Nat.lt_irrefl rows)] at hnote
  split at hnote
  all_goals
    obtain rfl := List.mem_singleton.mp hnote
    exact nofun

/-! ## All warnings -/

namespace Plan

variable {text : String} {p : Plan}

/-- The warnings about a text and its lenient plan. -/
structure Warned (text : String) (p : Plan) : Prop where
  /-- A block that is never closed, then names and pairs where they occur first, then cycles. -/
  warnings : warningsAmong (notes .synthesize text) =
    ((openBlock? (readLines text)).map .blockUnclosed).toList ++ (Diagram.ofText text).warnings
      ++ p.order.backEdges.map fun e => .cycleClosed e.1 e.2
  /-- The names are those of the placeholders. -/
  placeholders : ∀ name, p.schema.entity? name = some (.placeholder name) ↔
    name ∉ (Diagram.ofText text).entities ∧ ((Diagram.ofText text).firstNaming? name).isSome
  /-- A relationship that repeats an earlier one may be left out. -/
  repeated : ∀ before r after, (Diagram.ofText text).relationships = before ++ r :: after →
    (∃ r' ∈ before, r'.link = r.link) →
    ofDiagram .synthesize ⟨(Diagram.ofText text).entities, before ++ after⟩ = .ok p ∧
      Diagram.warnings ⟨(Diagram.ofText text).entities, before ++ after⟩ =
        (Diagram.ofText text).warnings
  /-- None are added when data are made. -/
  generated : ∀ {γ : Type} [Generator γ] (source : ValueSource γ) (rows : Nat) (g : γ),
    warningsAmong (((p.generate source rows).run g).1.notes rows) = []

/-- **The warnings about a text are what is unusual about it, each once and in order.** -/
theorem warned_ofText (h : ofText .synthesize text = .ok p) : Warned text p := by
  obtain ⟨s, hs, rfl⟩ := ofText_ok_iff.mp h
  have hcompletes := (Schema.reflects_resolve hs).completes
  refine ⟨?_, fun name => ?_, fun before r after hd hr => ?_, fun source rows g => ?_⟩
  · unfold notes
    rw [h, warningsAmong_append, warningsAmong_append, Diagram.warningsAmong_notes,
      Schema.warningsAmong_notes hs]
    exact congrArg _ (DependencyOrder.warningsAmong_notes _)
  · -- a name has a first place if and only if it is an end of some relationship
    have hnamed : ((Diagram.ofText text).firstNaming? name).isSome ↔
        name ∈ (Diagram.ofText text).ends := by
      unfold Diagram.firstNaming?
      rw [List.findIdx?_isSome, List.any_eq_true, Diagram.mem_ends]
      simp only [decide_eq_true_eq, Relationship.mem_ends]
    rw [hnamed]
    constructor
    · intro hplace
      have hin : name ∈ s.entities := (s.mem_entities_iff name).mpr ⟨_, hplace⟩
      -- a placeholder is not declared, as a declared entity is kept as it was
      have hnew : name ∉ (Diagram.ofText text).entities := by
        intro hdeclared
        have hentity := (hcompletes.declared name hdeclared).symm.trans hplace
        exact absurd (Diagram.declared_ofText hentity) nofun
      exact ⟨hnew, (hcompletes.nothingElse name hin).resolve_left hnew⟩
    · intro hname
      exact hcompletes.placeholder name hname.2 hname.1
  · obtain ⟨hdrop, hsame⟩ := Schema.resolve_drop hd hr hs
    refine ⟨?_, hsame⟩
    unfold ofDiagram
    rw [hdrop]
    rfl
  · exact Generation.warningsAmong_notes source _ _ rows g

/-- Two entities that are joined back and forth, two that refer to each other, and an open block. -/
def unusual : String :=
  "A \x7do--o\x7b B\nentity C \x7b\nB \x7do--o\x7b A\nB \x7do..|\x7b A : again\nC ||--o\x7b D\n"
    ++ "D \x7d|--|| C\nD ||--o\x7b C\n"

/-- Lines 4 and 6 repeat earlier ones. -/
theorem warned_ofText_unusual :
    ∃ p before r after, ofText .synthesize unusual = .ok p ∧
      warningsAmong (notes .synthesize unusual) =
        [.blockUnclosed "C", .placeholder "A" 1, .placeholder "B" 1, .joinBothWays "B_A" 3,
          .placeholder "D" 5, .cycleClosed "D" "C"] ∧
      p.schema.entity? "D" = some (.placeholder "D") ∧
      (Diagram.ofText unusual).relationships = before ++ r :: after ∧ r.line = 6 ∧
      ofDiagram .synthesize ⟨(Diagram.ofText unusual).entities, before ++ after⟩ = .ok p ∧
      warningsAmong (((p.generate Vocabulary.standard.source 3).run (SplitMix.mk [] 0)).1.notes 3)
        = [] := by
  have heval : (ofText .synthesize unusual).toOption.any (fun p =>
      decide (p.order.backEdges = [("D", "C")])) = true := by
    decide +kernel
  have hlines : ((openBlock? (readLines unusual)).map Diagnostic.blockUnclosed).toList
        ++ (Diagram.ofText unusual).warnings =
      [.blockUnclosed "C", .placeholder "A" 1, .placeholder "B" 1, .joinBothWays "B_A" 3,
        .placeholder "D" 5] := by
    decide +kernel
  have hnew : "D" ∉ (Diagram.ofText unusual).entities ∧
      ((Diagram.ofText unusual).firstNaming? "D").isSome := by
    decide +kernel
  have hsplit : (Diagram.ofText unusual).relationships =
      (Diagram.ofText unusual).relationships.take 4
        ++ ⟨"D", "C", ⟨"\x7d|", "--", "||"⟩, none, 6⟩
        :: (Diagram.ofText unusual).relationships.drop 5 := by
    decide +kernel
  have hrepeats : ∃ r' ∈ (Diagram.ofText unusual).relationships.take 4,
      r'.link = Relationship.link ⟨"D", "C", ⟨"\x7d|", "--", "||"⟩, none, 6⟩ := by
    decide +kernel
  obtain ⟨p, hp, htest⟩ := exists_ok_of_any heval
  have hwarned := warned_ofText hp
  refine ⟨p, _, _, _, hp, ?_, (hwarned.placeholders "D").mpr hnew, hsplit, rfl,
    (hwarned.repeated _ _ _ hsplit hrepeats).1, hwarned.generated _ _ _⟩
  rw [hwarned.warnings, hlines, of_decide_eq_true htest]
  rfl

end Plan

end Crowfoot
