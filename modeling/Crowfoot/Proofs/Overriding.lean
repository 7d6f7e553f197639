import Crowfoot.Proofs.Draws
import Crowfoot.Random.SplitMix
import Crowfoot.Vocabulary.Standard

/-!
# Words that are added to a vocabulary

Among the entries for an attribute those for the row's entity come before those for every entity,
and the first of them is the one that counts. Words are added in front. So an addition for an entity
counts for all rows of that entity, and an addition for every entity counts where there is no entry
for the row's entity, added or not. Where an addition does not count it changes nothing, and where
it counts nothing behind it matters, even if it has no words.
-/

namespace Crowfoot

open Text

/-! ## Entries that fit -/

/-- The entry is for that attribute of that entity. -/
def Entry.isBound (x : Entry) (entity attr : String) : Bool :=
  x.pattern.matches attr && x.entity.any (SameName · entity)

/-- The entry is for that attribute of every entity. -/
def Entry.isGeneric (x : Entry) (attr : String) : Bool :=
  x.pattern.matches attr && x.entity.isNone

/-- Words for an attribute of one entity, or of every entity. -/
structure Addition where
  entity : Option String
  attr : String
  words : List String
  deriving DecidableEq, Repr

/-- The entry that an addition puts in front of the others. -/
def Addition.entry (x : Addition) : Entry := ⟨x.entity, .exact x.attr, .words x.words⟩

namespace Vocabulary

variable {v : Vocabulary} {x : Addition} {entity attr : String}

/-- The vocabulary with words added one after the other. -/
def withAll (v : Vocabulary) (xs : List Addition) : Vocabulary :=
  xs.foldl (fun v x => v.withCandidates x.entity x.attr x.words) v

/-- The entry that counts for an attribute of an entity. -/
def entryFor? (v : Vocabulary) (entity attr : String) : Option Entry :=
  (v.entries.find? (·.isBound entity attr)).or (v.entries.find? (·.isGeneric attr))

/-- The addition counts for that attribute of that entity. -/
def Overrides (v : Vocabulary) (x : Addition) (entity attr : String) : Prop :=
  SameName x.attr attr ∧
    ((∃ name, x.entity = some name ∧ SameName name entity) ∨
      x.entity = none ∧ ∀ y ∈ v.entries, y.isBound entity attr = false)

theorem lookup?_eq (v : Vocabulary) (entity attr : String) :
    v.lookup? entity attr = (v.entryFor? entity attr).map Entry.candidates := by
  unfold lookup? entryFor?
  simp only [List.find?_filter, Bool.decide_and, Bool.decide_eq_true]
  rfl

theorem entries_withAll (v : Vocabulary) (xs : List Addition) :
    (v.withAll xs).entries = (xs.map Addition.entry).reverse ++ v.entries := by
  induction xs generalizing v with
  | nil => rfl
  | cons x rest ih =>
    have hrest := ih (v.withCandidates x.entity x.attr x.words)
    rw [List.map_cons, List.reverse_cons, List.append_assoc]
    exact hrest

theorem isBound_entry_iff :
    x.entry.isBound entity attr = true ↔
      SameName x.attr attr ∧ ∃ name, x.entity = some name ∧ SameName name entity := by
  simp [Addition.entry, Entry.isBound, NamePattern.matches, Option.any_eq_true]

theorem isGeneric_entry_iff :
    x.entry.isGeneric attr = true ↔ SameName x.attr attr ∧ x.entity = none := by
  simp [Addition.entry, Entry.isGeneric, NamePattern.matches]

/-! ## The entry that counts -/

section

variable {newer older : List Entry} {e : Entry}

/-- **The first entry for the entity counts, whatever stands around it for every entity.** -/
theorem entryFor?_of_isBound (hv : v.entries = newer ++ e :: older)
    (he : e.isBound entity attr = true) (hnewer : ∀ y ∈ newer, y.isBound entity attr = false) :
    v.entryFor? entity attr = some e := by
  have hfind : v.entries.find? (·.isBound entity attr) = some e := by
    rw [List.find?_eq_some_iff_append]
    exact ⟨he, newer, older, hv, fun y hy => by simp [hnewer y hy]⟩
  rw [entryFor?, hfind, Option.some_or]

/-- **Without an entry for the entity the first one for every entity counts.** -/
theorem entryFor?_of_isGeneric (hv : v.entries = newer ++ e :: older)
    (he : e.isGeneric attr = true) (hnewer : ∀ y ∈ newer, y.isGeneric attr = false)
    (hnone : ∀ y ∈ v.entries, y.isBound entity attr = false) :
    v.entryFor? entity attr = some e := by
  have hbound : v.entries.find? (·.isBound entity attr) = none := by
    rw [List.find?_eq_none]
    exact fun y hy => ne_true_of_eq_false (hnone y hy)
  have hfind : v.entries.find? (·.isGeneric attr) = some e := by
    rw [List.find?_eq_some_iff_append]
    exact ⟨he, newer, older, hv, fun y hy => by simp [hnewer y hy]⟩
  rw [entryFor?, hbound, Option.none_or, hfind]

end

/-- An entry for one entity is not for every entity. -/
theorem isGeneric_of_isBound {e : Entry} (h : e.isBound entity attr = true) :
    e.isGeneric attr = false := by
  obtain ⟨_, hentity⟩ := (Bool.and_eq_true _ _).mp h
  obtain ⟨name, hname, _⟩ := (Option.any_eq_true ..).mp hentity
  simp [Entry.isGeneric, hname]

/-- **The addition counts where it overrides.** -/
theorem entryFor?_of_overrides (h : v.Overrides x entity attr) :
    (v.withCandidates x.entity x.attr x.words).entryFor? entity attr = some x.entry := by
  have hv : (v.withCandidates x.entity x.attr x.words).entries = [] ++ x.entry :: v.entries := rfl
  obtain ⟨hattr, hentity | ⟨hany, hnone⟩⟩ := h
  · exact entryFor?_of_isBound hv (isBound_entry_iff.mpr ⟨hattr, hentity⟩) nofun
  · have hgeneric : x.entry.isGeneric attr = true := isGeneric_entry_iff.mpr ⟨hattr, hany⟩
    refine entryFor?_of_isGeneric hv hgeneric nofun (List.forall_mem_cons.mpr ⟨?_, hnone⟩)
    refine Bool.eq_false_iff.mpr fun hbound => ?_
    exact ne_true_of_eq_false (isGeneric_of_isBound hbound) hgeneric

/-- **Elsewhere it is passed over.** -/
theorem entryFor?_of_not_overrides (h : ¬ v.Overrides x entity attr) :
    (v.withCandidates x.entity x.attr x.words).entryFor? entity attr = v.entryFor? entity attr := by
  have hbound : x.entry.isBound entity attr = false := by
    refine Bool.eq_false_iff.mpr fun hbound => ?_
    obtain ⟨hattr, hentity⟩ := isBound_entry_iff.mp hbound
    exact h ⟨hattr, Or.inl hentity⟩
  have hcons : (v.withCandidates x.entity x.attr x.words).entries = x.entry :: v.entries := rfl
  unfold entryFor?
  rw [hcons]
  simp only [List.find?_cons, hbound]
  cases hgeneric : x.entry.isGeneric attr with
  | false => rfl
  | true =>
    -- an addition for every entity is passed over for an entry that is bound
    obtain ⟨hattr, hany⟩ := isGeneric_entry_iff.mp hgeneric
    have hfound : (v.entries.find? (·.isBound entity attr)).isSome = true := by
      rw [List.find?_isSome]
      by_contra hnone
      refine h ⟨hattr, Or.inr ⟨hany, fun y hy => ?_⟩⟩
      exact Bool.eq_false_iff.mpr fun hy' => hnone ⟨y, hy, hy'⟩
    obtain ⟨e, he⟩ := Option.isSome_iff_exists.mp hfound
    rw [he, Option.some_or, Option.some_or]

/-- **Additions for every entity do not touch what there is for one.** -/
theorem entryFor?_withAll_of_isBound {xs : List Addition}
    (hv : ∃ e ∈ v.entries, e.isBound entity attr = true)
    (hxs : ∀ y ∈ xs, y.entry.isBound entity attr = false) :
    (v.withAll xs).entryFor? entity attr = v.entryFor? entity attr := by
  obtain ⟨e, he⟩ := Option.isSome_iff_exists.mp (List.find?_isSome.mpr hv)
  have hnone : (xs.map Addition.entry).reverse.find? (·.isBound entity attr) = none := by
    simpa using hxs
  unfold entryFor?
  rw [entries_withAll, List.find?_append, hnone, Option.none_or, he, Option.some_or,
    Option.some_or]

/-! ## Upper and lower case -/

theorem matches_congr {p : NamePattern} {attr attr' : String} (h : SameName attr' attr) :
    p.matches attr' = p.matches attr := by
  cases p with
  | exact name =>
    have hiff : SameName name attr' ↔ SameName name attr :=
      ⟨fun hname => hname.trans h, fun hname => hname.trans h.symm⟩
    simp only [NamePattern.matches, hiff]
  | ending text =>
    show text.toList.isSuffixOf (foldCase attr') = text.toList.isSuffixOf (foldCase attr)
    rw [h]

/-- **Which entry counts does not depend on upper and lower case.** -/
theorem entryFor?_congr {entity' attr' : String} (hentity : SameName entity' entity)
    (hattr : SameName attr' attr) : v.entryFor? entity' attr' = v.entryFor? entity attr := by
  have hname : ∀ name, SameName name entity' ↔ SameName name entity := fun name =>
    ⟨fun h => h.trans hentity, fun h => h.trans hentity.symm⟩
  have hbound : ∀ e : Entry, e.isBound entity' attr' = e.isBound entity attr := by
    intro e
    simp only [Entry.isBound, matches_congr hattr, hname]
  have hgeneric : ∀ e : Entry, e.isGeneric attr' = e.isGeneric attr := by
    intro e
    simp only [Entry.isGeneric, matches_congr hattr]
  simp only [entryFor?, hbound, hgeneric]

/-! ## Values -/

section

variable {γ : Type} [Generator γ]

/-- What is drawn is one of the words. -/
structure Picks (words : List String) (value : Draw γ (Option Value)) : Prop where
  eq : value = do return (← Draw.choose words).map .text
  /-- Without words there is no value, and nothing is drawn. -/
  none : words = [] → value = return .none
  mem : words ≠ [] → value.Ensures fun r => ∃ word ∈ words, r = some (.text word)

theorem picks_choose (words : List String) :
    Picks words (do return (← Draw.choose words).map .text : Draw γ (Option Value)) where
  eq := rfl
  none := by
    rintro rfl
    rfl
  mem := by
    intro hne
    refine (Draw.choose_mem words).bind fun chosen hchosen => Draw.ensures_pure ?_
    obtain ⟨word, hword, rfl⟩ := hchosen.resolve_left fun hnil => hne hnil.1
    exact ⟨word, hword, rfl⟩

variable {row : RowContext} {a : Attribute}

theorem source_congr {w : Vocabulary}
    (h : w.entryFor? row.entity a.name = v.entryFor? row.entity a.name) :
    (w.source row a : Draw γ (Option Value)) = v.source row a := by
  unfold source
  rw [lookup?_eq, lookup?_eq, h]

theorem picks_of_entryFor? (h : v.entryFor? row.entity a.name = some x.entry) :
    Picks x.words (v.source row a : Draw γ (Option Value)) := by
  have hsource : v.source row a = (do return (← Draw.choose x.words).map .text : Draw γ _) := by
    unfold source
    rw [lookup?_eq, h]
    rfl
  rw [hsource]
  exact picks_choose x.words

/-- The additions that come later stand in front. -/
theorem entries_withAll_split (v : Vocabulary) (before after : List Addition) (x : Addition) :
    (v.withAll (before ++ x :: after)).entries =
      (after.map Addition.entry).reverse ++
        x.entry :: ((before.map Addition.entry).reverse ++ v.entries) := by
  rw [entries_withAll]
  simp

/--
**An addition counts where it should, and changes nothing elsewhere.**

A value for a row is one of the added words if the addition is for the row's attribute, and for
the row's entity, or for every entity while the vocabulary has no entry for the row's entity. There
is no value then if there are no words. In all other rows the value and what is drawn for it are as
before. So after any additions an entry for the row's entity wins over those for every entity, and
of two that are for the same the later one wins. Upper and lower case do not matter to which entry
that is.
-/
theorem withCandidates_overrides (v : Vocabulary) (x : Addition) (row : RowContext)
    (a : Attribute) :
    (v.Overrides x row.entity a.name →
      Picks x.words
        ((v.withCandidates x.entity x.attr x.words).source row a : Draw γ (Option Value))) ∧
    (¬ v.Overrides x row.entity a.name →
      ((v.withCandidates x.entity x.attr x.words).source row a : Draw γ (Option Value)) =
        v.source row a) ∧
    (∀ before after, x.entry.isBound row.entity a.name = true →
      (∀ y ∈ after, y.entry.isBound row.entity a.name = false) →
      Picks x.words ((v.withAll (before ++ x :: after)).source row a : Draw γ (Option Value))) ∧
    (∀ before after, x.entry.isGeneric a.name = true →
      (∀ y ∈ after, y.entry.isGeneric a.name = false) →
      (∀ e ∈ (v.withAll (before ++ x :: after)).entries, e.isBound row.entity a.name = false) →
      Picks x.words ((v.withAll (before ++ x :: after)).source row a : Draw γ (Option Value))) ∧
    (∀ xs : List Addition, (∃ e ∈ v.entries, e.isBound row.entity a.name = true) →
      (∀ y ∈ xs, y.entry.isBound row.entity a.name = false) →
      ((v.withAll xs).source row a : Draw γ (Option Value)) = v.source row a) ∧
    ∀ entity attr, SameName entity row.entity → SameName attr a.name →
      v.entryFor? entity attr = v.entryFor? row.entity a.name := by
  refine ⟨fun h => picks_of_entryFor? (entryFor?_of_overrides h),
    fun h => source_congr (entryFor?_of_not_overrides h), fun before after hx hlater => ?_,
    fun before after hx hlater hnone => ?_,
    fun xs hv hxs => source_congr (entryFor?_withAll_of_isBound hv hxs), fun _ _ => entryFor?_congr⟩
  · -- none that came later is for the row, so the addition is the last one that is
    refine picks_of_entryFor? (entryFor?_of_isBound (entries_withAll_split v before after x) hx ?_)
    simpa using hlater
  · refine picks_of_entryFor?
      (entryFor?_of_isGeneric (entries_withAll_split v before after x) hx ?_ hnone)
    simpa using hlater

end

/-- The row of a person, before anything stands in it. -/
def personRow : RowContext := ⟨"Person", 0, [], [], [], []⟩

/-- In the row of a person an empty list for people takes the first names away, and words for the
types of every entity leave those of people alone. -/
theorem withCandidates_overrides_person :
    standard.Overrides ⟨some "person", "FirstName", []⟩ personRow.entity "firstname" ∧
      Picks [] ((standard.withCandidates (some "person") "FirstName" []).source personRow
        ⟨"firstname", .text, none, false⟩ : Draw SplitMix (Option Value)) ∧
      ¬ standard.Overrides ⟨none, "type", ["robot"]⟩ personRow.entity "type" ∧
      ((standard.withCandidates none "type" ["robot"]).source personRow
        ⟨"type", .text, none, false⟩ : Draw SplitMix (Option Value)) =
        standard.source personRow ⟨"type", .text, none, false⟩ := by
  have hcounts : standard.Overrides ⟨some "person", "FirstName", []⟩ personRow.entity "firstname" :=
    ⟨by decide, Or.inl ⟨"person", rfl, by decide⟩⟩
  have hpassed : ¬ standard.Overrides ⟨none, "type", ["robot"]⟩ personRow.entity "type" := by
    rintro ⟨_, ⟨name, hname, _⟩ | ⟨_, hnone⟩⟩
    · exact absurd hname nofun
    · -- people have types of their own, which win over those of every entity
      have hmem : Entry.words "Person" "type" Words.personTypes ∈ standard.entries := by
        decide
      exact absurd (hnone _ hmem) (by decide)
  refine ⟨hcounts, ?_, hpassed, ?_⟩
  · exact (withCandidates_overrides standard ⟨some "person", "FirstName", []⟩ personRow
      ⟨"firstname", .text, none, false⟩).1 hcounts
  · exact (withCandidates_overrides standard ⟨none, "type", ["robot"]⟩ personRow
      ⟨"type", .text, none, false⟩).2.1 hpassed

end Vocabulary

end Crowfoot
