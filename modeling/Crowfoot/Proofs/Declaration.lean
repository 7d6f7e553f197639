import Crowfoot.Proofs.Columns
import Mathlib.Data.List.Basic

/-!
# What the lines of a text declare

A reader carries the entities so far and the block that is open. The same diagram can be seen by
looking at the lines. A relationship is declared by each relationship line, wherever it stands. An
entity is declared by the last line that opens its block, with the attributes on the lines from
there to the next line that opens or closes a block.

Along the lines the state of the reader is arbitrary: the last block of a name in the lines to come
has its entity, and where there is none, the block that is open goes on up to the first line that
ends it. From the empty state that is what the lines declare, and they declare one diagram only.
-/

namespace Crowfoot

open Text

/-! ## The lines -/

/-- The lines of a text, each as it is read. -/
def readLines (text : String) : List Line := (lines text.toList).map Line.ofText

namespace Line

/-- A block that is open ends with the line. -/
def endsBlock : Line → Bool
  | entityOpen _ | entityClose => true
  | _ => false

/-- The attribute on a line. -/
def declares? : Line → Option Attribute
  | attr a => some a
  | _ => none

/-- The relationship on a line of that number. -/
def relates? (number : Nat) : Line → Option Relationship
  | relationship left connector right label => some ⟨left, right, connector, label, number⟩
  | _ => none

end Line

/-- The relationships on lines that are numbered from there. -/
def relationshipsFrom (number : Nat) (lines : List Line) : List Relationship :=
  (lines.zipIdx number).filterMap fun (line, number) => line.relates? number

/-- The attributes of a block, of which these are the lines after the first. -/
def blockAttributes (lines : List Line) : List Attribute :=
  (lines.takeWhile (!·.endsBlock)).filterMap Line.declares?

/-- The last block of that name has those attributes. -/
def LastBlock (lines : List Line) (name : String) (attributes : List Attribute) : Prop :=
  ∃ before after, lines = before ++ .entityOpen name :: after ∧ .entityOpen name ∉ after ∧
    attributes = blockAttributes after

/-- The entity of a block. Its key is the last of its generated attributes. -/
def Entity.ofBlock (name : String) (attributes : List Attribute) : Entity where
  name
  attributes
  primaryKey := (attributes.filter Attribute.isGenerated).getLast?.map Attribute.name
  declared := true

/-- A diagram has what the lines declare, and nothing else. -/
structure Diagram.DeclaredBy (d : Diagram) (lines : List Line) : Prop where
  /-- The relationships are those on the lines, with the numbers of their lines. -/
  relationships : d.relationships = relationshipsFrom 1 lines
  /-- There is an entity of each name whose block some line opens. -/
  declared : ∀ name, name ∈ d.entities ↔ .entityOpen name ∈ lines
  /-- An entity is the one of the last block of its name. -/
  entity : ∀ name attributes, LastBlock lines name attributes →
    d.entities[name]? = some (.ofBlock name attributes)

/-! ## The last block of a name -/

/-- The attributes of the last block of that name, if there is one. -/
def lastBlock? (name : String) : List Line → Option (List Attribute)
  | [] => none
  | line :: rest =>
    (lastBlock? name rest).or (if line = .entityOpen name then some (blockAttributes rest) else none)

theorem lastBlock?_eq_none_iff {name : String} {lines : List Line} :
    lastBlock? name lines = none ↔ .entityOpen name ∉ lines := by
  induction lines with
  | nil => simp [lastBlock?]
  | cons line rest ih =>
    rw [lastBlock?, Option.or_eq_none_iff, ih, List.mem_cons, not_or, and_comm]
    by_cases h : line = .entityOpen name
    · simp [h]
    · simp [h, Ne.symm h]

theorem lastBlock?_of_split {name : String} {before after : List Line}
    (h : .entityOpen name ∉ after) :
    lastBlock? name (before ++ .entityOpen name :: after) = some (blockAttributes after) := by
  induction before with
  | nil =>
    rw [List.nil_append, lastBlock?, lastBlock?_eq_none_iff.mpr h, if_pos rfl]
    rfl
  | cons line rest ih =>
    rw [List.cons_append, lastBlock?, ih]
    rfl

theorem exists_lastBlock {name : String} {lines : List Line} (h : .entityOpen name ∈ lines) :
    ∃ attributes, LastBlock lines name attributes := by
  induction lines with
  | nil => exact absurd h (by simp)
  | cons line rest ih =>
    by_cases hrest : .entityOpen name ∈ rest
    · obtain ⟨attributes, before, after, hsplit, hlast, hattrs⟩ := ih hrest
      refine ⟨attributes, line :: before, after, ?_, hlast, hattrs⟩
      rw [hsplit, List.cons_append]
    · have hline : .entityOpen name = line := (List.mem_cons.mp h).resolve_right hrest
      exact ⟨_, [], rest, by rw [hline, List.nil_append], hrest, rfl⟩

theorem lastBlock?_eq_some_iff {name : String} {lines : List Line} {attributes : List Attribute} :
    lastBlock? name lines = some attributes ↔ LastBlock lines name attributes := by
  constructor
  · intro h
    -- some line opens the block, so there is a last one, and that is the one that was found
    have hmem : .entityOpen name ∈ lines := by
      by_contra hnot
      rw [lastBlock?_eq_none_iff.mpr hnot] at h
      exact absurd h (by simp)
    obtain ⟨found, before, after, rfl, hlast, rfl⟩ := exists_lastBlock hmem
    rw [lastBlock?_of_split hlast] at h
    exact ⟨before, after, rfl, hlast, (Option.some.inj h).symm⟩
  · intro h
    obtain ⟨before, after, rfl, hlast, rfl⟩ := h
    exact lastBlock?_of_split hlast

/-! ## Reading along the lines -/

theorem find?_reverse_eq (attributes : List Attribute) :
    attributes.reverse.find? Attribute.isGenerated =
      (attributes.filter Attribute.isGenerated).getLast? := by
  rw [← List.head?_filter, List.filter_reverse, List.head?_reverse]

theorem Entity.keyed_of_declared {e : Entity} (h : e.declared = true) :
    e.keyed = .ofBlock e.name e.attributes := by
  unfold keyed ofBlock
  rw [find?_reverse_eq, h]

namespace Reading

/-- The reading with more attributes in the block that is open. -/
def continued (r : Reading) (attributes : List Attribute) : Reading :=
  { r with block := r.block.map fun e => { e with attributes := e.attributes ++ attributes } }

theorem continued_nil (r : Reading) : r.continued [] = r := by
  cases r with
  | mk entities relationships block => cases block <;> simp [continued]

theorem continued_continued (r : Reading) (first second : List Attribute) :
    (r.continued first).continued second = r.continued (first ++ second) := by
  unfold continued
  cases r.block <;> simp

theorem closeBlock_relationships (r : Reading) : r.closeBlock.relationships = r.relationships := by
  unfold closeBlock
  cases r.block <;> rfl

theorem closeBlock_block (r : Reading) : r.closeBlock.block = none := by
  unfold closeBlock
  cases h : r.block with
  | none => exact h
  | some e => rfl

theorem closeBlock_of_none {r : Reading} (h : r.block = none) : r.closeBlock = r := by
  unfold closeBlock
  rw [h]

theorem continued_of_none {r : Reading} (h : r.block = none) (attributes : List Attribute) :
    r.continued attributes = r := by
  cases r with
  | mk entities relationships block =>
    obtain rfl : block = none := h
    rfl

/-! ### Relationships -/

theorem step_relationships (r : Reading) (number : Nat) (line : Line) :
    (r.step number line).relationships = r.relationships ++ (line.relates? number).toList := by
  cases line with
  | relationship left connector right label => rfl
  | entityOpen name => exact (closeBlock_relationships r).trans (List.append_nil _).symm
  | entityClose => exact (closeBlock_relationships r).trans (List.append_nil _).symm
  | attr a => exact (List.append_nil _).symm
  | blank => exact (List.append_nil _).symm
  | separator => exact (List.append_nil _).symm
  | unrecognized => exact (List.append_nil _).symm

/-- **Relationships are collected from their lines, in whatever state the reader is.** -/
theorem steps_relationships (r : Reading) (number : Nat) (lines : List Line) :
    (r.steps number lines).relationships = r.relationships ++ relationshipsFrom number lines := by
  induction lines generalizing r number with
  | nil => exact (List.append_nil _).symm
  | cons line rest ih =>
    have hfrom : relationshipsFrom number (line :: rest) =
        (line.relates? number).toList ++ relationshipsFrom (number + 1) rest := by
      cases h : line.relates? number <;> simp [relationshipsFrom, h]
    rw [steps, ih, step_relationships, List.append_assoc, hfrom]

/-! ### Entities -/

/-- A relationship that is collected has no part in the entities. -/
theorem closeBlock_entities_congr {r r' : Reading} (hentities : r'.entities = r.entities)
    (hblock : r'.block = r.block) : r'.closeBlock.entities = r.closeBlock.entities := by
  unfold closeBlock
  rw [hblock]
  cases r.block with
  | none => exact hentities
  | some e => exact congrArg (·.insert e.name e.keyed) hentities

/-- The entity of a new block is what the lines after it make of it. -/
theorem getElem?_opened (r : Reading) (name other : String) (attributes : List Attribute) :
    ({ r with block := some (.opened name) }.continued attributes).closeBlock.entities[other]? =
      if name = other then some (.ofBlock name attributes) else r.entities[other]? := by
  have hkeyed : Entity.keyed { Entity.opened name with attributes := [] ++ attributes } =
      .ofBlock name attributes := by
    rw [List.nil_append]
    exact Entity.keyed_of_declared rfl
  show (r.entities.insert name
    (Entity.keyed { Entity.opened name with attributes := [] ++ attributes }))[other]? = _
  rw [hkeyed, Named.getElem?_insert]

/--
**The last block of a name in the lines to come has its entity.**

Where there is none, the entity is what is known so far, when the open block has been continued
with the attributes up to the first line that ends it.
-/
theorem steps_entities (r : Reading) (number : Nat) (lines : List Line) (name : String) :
    (r.steps number lines).closeBlock.entities[name]? =
      ((lastBlock? name lines).map (Entity.ofBlock name)).or
        (r.continued (blockAttributes lines)).closeBlock.entities[name]? := by
  induction lines generalizing r number with
  | nil => exact congrArg (fun r : Reading => r.closeBlock.entities[name]?) r.continued_nil.symm
  | cons line rest ih =>
    rw [steps, ih, lastBlock?]
    cases line with
    | entityOpen other =>
      have hends : blockAttributes (.entityOpen other :: rest) = [] := rfl
      rw [hends, continued_nil]
      show Option.or _ ({ r.closeBlock with block := some (.opened other) }.continued
        (blockAttributes rest)).closeBlock.entities[name]? = _
      rw [getElem?_opened]
      -- a later block of the name comes first; without one it is this block, if it has the name
      by_cases h : other = name
      · subst h
        cases lastBlock? other rest <;> simp
      · have hline : Line.entityOpen other ≠ .entityOpen name := fun he => h (Line.entityOpen.inj he)
        rw [if_neg h, if_neg hline, Option.or_none]
    | entityClose =>
      -- attributes behind the line find no block to go to
      have hends : blockAttributes (.entityClose :: rest) = [] := rfl
      have hclosed := closeBlock_block r
      rw [if_neg (by simp), Option.or_none, hends, continued_nil]
      show Option.or _ (r.closeBlock.continued (blockAttributes rest)).closeBlock.entities[name]? = _
      rw [continued_of_none hclosed, closeBlock_of_none hclosed]
    | attr a =>
      -- one attribute now and the others later are all of them at once
      have hattr : blockAttributes (.attr a :: rest) = [a] ++ blockAttributes rest := rfl
      rw [if_neg (by simp), Option.or_none, hattr, ← continued_continued]
      rfl
    | relationship left connector right label =>
      have hsame : ((r.step number (.relationship left connector right label)).continued
          (blockAttributes rest)).closeBlock.entities =
            (r.continued (blockAttributes rest)).closeBlock.entities :=
        closeBlock_entities_congr rfl rfl
      rw [if_neg (by simp), Option.or_none, hsame]
      rfl
    | blank =>
      rw [if_neg (by simp), Option.or_none]
      rfl
    | separator =>
      rw [if_neg (by simp), Option.or_none]
      rfl
    | unrecognized =>
      rw [if_neg (by simp), Option.or_none]
      rfl

end Reading

/-! ## What a text declares -/

namespace Diagram

variable {d d' : Diagram} {ls : List Line}

theorem ofText_relationships (text : String) :
    (ofText text).relationships = relationshipsFrom 1 (readLines text) :=
  (Reading.steps_relationships .start 1 (readLines text)).trans (List.nil_append _)

theorem ofText_entities (text : String) (name : String) :
    (ofText text).entities[name]? =
      (lastBlock? name (readLines text)).map (Entity.ofBlock name) := by
  have hnone : (Reading.start.continued (blockAttributes (readLines text))).closeBlock.entities[name]?
      = none := by
    simp [Reading.continued, Reading.start, Reading.closeBlock]
  have hsteps := Reading.steps_entities .start 1 (readLines text) name
  rw [hnone, Option.or_none] at hsteps
  exact hsteps

theorem declaredBy_ofText (text : String) : (ofText text).DeclaredBy (readLines text) := by
  refine ⟨ofText_relationships text, fun name => ?_, fun name attributes h => ?_⟩
  · rw [Std.ExtTreeMap.mem_iff_isSome_getElem?, ofText_entities, Option.isSome_map,
      ← Option.ne_none_iff_isSome, ne_eq, lastBlock?_eq_none_iff, not_not]
  · rw [ofText_entities, lastBlock?_eq_some_iff.mpr h]
    rfl

/-- **Lines declare at most one diagram.** -/
theorem DeclaredBy.unique (h : d.DeclaredBy ls) (h' : d'.DeclaredBy ls) : d = d' := by
  have hentities : d.entities = d'.entities := by
    refine Std.ExtTreeMap.ext_getElem? fun name => ?_
    by_cases hmem : .entityOpen name ∈ ls
    · obtain ⟨attributes, hlast⟩ := exists_lastBlock hmem
      rw [h.entity name attributes hlast, h'.entity name attributes hlast]
    · have hnone : name ∉ d.entities := fun hin => hmem ((h.declared name).mp hin)
      have hnone' : name ∉ d'.entities := fun hin => hmem ((h'.declared name).mp hin)
      rw [Std.ExtTreeMap.getElem?_eq_none hnone, Std.ExtTreeMap.getElem?_eq_none hnone']
  cases d with
  | mk entities relationships =>
    cases d' with
    | mk entities' relationships' =>
      obtain rfl : entities = entities' := hentities
      exact congrArg _ (h.relationships.trans h'.relationships.symm)

/--
**A text is the diagram that its lines declare.**

Its relationships are on its relationship lines, with their numbers; its entities are those of the
last blocks of their names. There is no other diagram of which that is true. So a line that is
neither a relationship nor in the last block of its name makes no difference: texts that agree in
all others are one diagram.
-/
theorem declaredBy_iff (text : String) :
    (∀ d : Diagram, d.DeclaredBy (readLines text) ↔ d = ofText text) ∧
    ∀ other : String,
      relationshipsFrom 1 (readLines other) = relationshipsFrom 1 (readLines text) →
      (∀ name attributes,
        LastBlock (readLines other) name attributes ↔ LastBlock (readLines text) name attributes) →
      ofText other = ofText text := by
  refine ⟨fun d => ⟨fun h => h.unique (declaredBy_ofText text), fun h => ?_⟩, ?_⟩
  · rw [h]
    exact declaredBy_ofText text
  · intro other hrelationships hblocks
    have hother := declaredBy_ofText other
    -- the other text's diagram is declared by these lines too, so it is theirs
    refine DeclaredBy.unique ⟨hother.relationships.trans hrelationships, fun name => ?_, ?_⟩
      (declaredBy_ofText text)
    · rw [hother.declared]
      constructor
      · intro hmem
        obtain ⟨attributes, hlast⟩ := exists_lastBlock hmem
        obtain ⟨before, after, hsplit, _⟩ := (hblocks name attributes).mp hlast
        rw [hsplit]
        exact List.mem_append_right _ (List.mem_cons_self ..)
      · intro hmem
        obtain ⟨attributes, hlast⟩ := exists_lastBlock hmem
        obtain ⟨before, after, hsplit, _⟩ := (hblocks name attributes).mpr hlast
        rw [hsplit]
        exact List.mem_append_right _ (List.mem_cons_self ..)
    · intro name attributes hlast
      exact hother.entity name attributes ((hblocks name attributes).mpr hlast)

/-- A stray attribute, a block that is left open, and one that is opened again without a brace. -/
def interleaved : String :=
  "x : text\nentity A \x7b\na : text <<generated>>\nA ||--o\x7b B\nentity B \x7b\n\x7d\n\x7d\n"
    ++ "y : text\nentity A\nb : text <<generated>>\n--\nA ||--|| A\nc : text <<generated>>\nd : text\n"

/-- The same without the lines that make no difference. -/
def stripped : String :=
  "\n\n\nA ||--o\x7b B\nentity B\nentity A\nb : text <<generated>>\nc : text <<generated>>\n"
    ++ "d : text\n\n\nA ||--|| A\n"

theorem declaredBy_iff_interleaved :
    (ofText interleaved).entities["A"]? = some (.ofBlock "A"
      [⟨"b", .text, some .generated, false⟩, ⟨"c", .text, some .generated, false⟩,
        ⟨"d", .text, none, false⟩]) ∧
    ofText stripped = ofText interleaved := by
  -- both texts have blocks of two names only
  have heval : relationshipsFrom 1 (readLines stripped) = relationshipsFrom 1 (readLines interleaved) ∧
      (∀ name ∈ ["A", "B"],
        lastBlock? name (readLines stripped) = lastBlock? name (readLines interleaved)) ∧
      lastBlock? "A" (readLines interleaved) = some
        [⟨"b", .text, some .generated, false⟩, ⟨"c", .text, some .generated, false⟩,
          ⟨"d", .text, none, false⟩] ∧
      (ofText stripped).entities.keys = ["A", "B"] ∧
      (ofText interleaved).entities.keys = ["A", "B"] := by
    decide +kernel
  obtain ⟨hrelationships, hblocks, hlast, hstripped, hinterleaved⟩ := heval
  obtain ⟨hiff, hsame⟩ := declaredBy_iff interleaved
  have hothers : ∀ text name, (ofText text).entities.keys = ["A", "B"] → name ∉ ["A", "B"] →
      lastBlock? name (readLines text) = none := by
    intro text name hkeys hname
    rw [← hkeys, Std.ExtTreeMap.mem_keys, (declaredBy_ofText text).declared] at hname
    exact lastBlock?_eq_none_iff.mpr hname
  constructor
  · exact ((hiff _).mpr rfl).entity "A" _ (lastBlock?_eq_some_iff.mp hlast)
  · refine hsame stripped hrelationships fun name attributes => ?_
    rw [← lastBlock?_eq_some_iff, ← lastBlock?_eq_some_iff]
    by_cases hname : name ∈ ["A", "B"]
    · rw [hblocks name hname]
    · rw [hothers stripped name hstripped hname, hothers interleaved name hinterleaved hname]

end Diagram

end Crowfoot
