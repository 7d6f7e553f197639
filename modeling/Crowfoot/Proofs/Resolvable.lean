import Crowfoot.Diagram.Reading
import Crowfoot.Proofs.Reflection

/-!
# When a diagram has a schema

Two of the conditions are looked at while the relationships are taken one by one: that the ends are
declared, and that no name of a join table is for two pairs. They are about all relationships read
so far, so a relationship is accepted exactly when the diagram with it is still coherent. The third
condition, that no join table is named like an entity, waits for the end. None of them speaks of
the order of the relationships.
-/

namespace Crowfoot

open Text

variable {mode : Undeclared} {d d' : Diagram} {s s' : Schema} {r : Relationship}

namespace Diagram

/-- What is looked at while the relationships are read. -/
structure Coherent (mode : Undeclared) (d : Diagram) : Prop where
  /-- Without placeholders every end of a relationship is declared. -/
  declared : mode = .synthesize ∨ ∀ name ∈ d.ends, name ∈ d.entities
  /-- Join tables of one name are for one pair. -/
  apart : ∀ r ∈ d.pairings, ∀ r' ∈ d.pairings,
    SameName (joinName r.left r.right) (joinName r'.left r'.right) →
      r.left = r'.left ∧ r.right = r'.right

/-- The diagram has a schema. -/
structure Resolvable (mode : Undeclared) (d : Diagram) : Prop extends Coherent mode d where
  /-- No join table is named like an entity, be it declared or an end of a relationship. -/
  free : ∀ r ∈ d.pairings, ∀ name, name ∈ d.entities ∨ name ∈ d.ends →
    ¬ SameName name (joinName r.left r.right)

theorem mem_ends {name : String} :
    name ∈ d.ends ↔ ∃ r ∈ d.relationships, name = r.left ∨ name = r.right := by
  simp [ends]

theorem mem_pairings : r ∈ d.pairings ↔ r ∈ d.relationships ∧ r.Pairs := by
  simp [pairings]

theorem ends_subset (h : d'.relationships ⊆ d.relationships) : d'.ends ⊆ d.ends := by
  intro name hname
  obtain ⟨r, hr, hend⟩ := mem_ends.mp hname
  exact mem_ends.mpr ⟨r, h hr, hend⟩

theorem pairings_subset (h : d'.relationships ⊆ d.relationships) : d'.pairings ⊆ d.pairings := by
  intro r hr
  obtain ⟨hmem, hpairs⟩ := mem_pairings.mp hr
  exact mem_pairings.mpr ⟨h hmem, hpairs⟩

/-- Fewer relationships are coherent if more are. -/
theorem Coherent.mono (hd : d.Coherent mode) (he : d'.entities = d.entities)
    (h : d'.relationships ⊆ d.relationships) : d'.Coherent mode where
  declared := by
    rcases hd.declared with hmode | hall
    · exact Or.inl hmode
    · exact Or.inr fun name hname => he ▸ hall name (ends_subset h hname)
  apart := fun r hr r' hr' => hd.apart r (pairings_subset h hr) r' (pairings_subset h hr')

theorem Resolvable.mono (hd : d.Resolvable mode) (he : d'.entities = d.entities)
    (h : d'.relationships ⊆ d.relationships) : d'.Resolvable mode where
  toCoherent := hd.toCoherent.mono he h
  free := fun r hr name hname =>
    hd.free r (pairings_subset h hr) name (hname.imp (fun hin => he ▸ hin) fun hin => ends_subset h hin)

end Diagram

namespace Schema

theorem Reflects.mem_entities_iff (h : s.Reflects d) {name : String} :
    name ∈ s.entities ↔ name ∈ d.entities ∨ name ∈ d.ends := by
  rw [s.mem_entities_iff, h.entities]
  unfold Diagram.entity?
  split
  · rename_i hin
    exact ⟨fun _ => hin, fun _ => ⟨_, rfl⟩⟩
  · rename_i hout
    exact ⟨fun ⟨_, he⟩ => absurd he (by simp), fun hin => absurd hin hout⟩

/-! ## One relationship -/

theorem ends_declared_iff (h : s.Reflects d) (hd : d.Coherent mode) :
    (mode = .synthesize ∨ r.left ∈ s.entities ∧ r.right ∈ s.entities) ↔
      (mode = .synthesize ∨ ∀ name ∈ (d.add r).ends, name ∈ d.entities) := by
  rcases hd.declared with hmode | hall
  · exact ⟨fun _ => Or.inl hmode, fun _ => Or.inl hmode⟩
  · -- all ends so far are declared, so the schema's entities are the declared ones
    have hin : ∀ name, name ∈ s.entities ↔ name ∈ d.entities := by
      intro name
      rw [h.mem_entities_iff]
      exact ⟨fun hn => hn.elim id (hall name), Or.inl⟩
    rw [hin, hin]
    refine or_congr_right ?_
    constructor
    · intro hends name hname
      rcases Diagram.mem_ends_add.mp hname with hname | rfl | rfl
      · exact hall name hname
      · exact hends.1
      · exact hends.2
    · intro hends
      exact ⟨hends _ (Diagram.mem_ends_add.mpr (Or.inr (Or.inl rfl))),
        hends _ (Diagram.mem_ends_add.mpr (Or.inr (Or.inr rfl)))⟩

/-- A pair is accepted if no pair before it has a table of its name but itself. -/
theorem exists_addPairing_iff_apart (hjoins : s.joinTables = d.joinTables)
    (hd : d.Coherent mode) {left right : String} {line : Nat} :
    (∃ s', s.addPairing left right line = .ok s') ↔
      ∀ r ∈ d.pairings, SameName (joinName r.left r.right) (joinName left right) →
        r.left = left ∧ r.right = right := by
  rw [exists_addPairing_iff]
  constructor
  · intro hfirst r hr hsame
    obtain ⟨t, ht, hleft, hright⟩ := Diagram.exists_joinTable hr
    -- some table has the name, and the first one that has it decides
    cases hfind : s.joinTable? (joinName left right) with
    | none =>
      obtain ⟨r₀, _, rfl⟩ := Diagram.mem_joinTables ht
      have hname : joinName r₀.left r₀.right = joinName r.left r.right :=
        congrArg₂ joinName hleft hright
      refine absurd ?_ (joinTable?_none hfind _ (hjoins ▸ ht))
      exact (congrArg foldCase hname).trans hsame
    | some t₀ =>
      obtain ⟨hl, hr'⟩ := hfirst t₀ hfind
      obtain ⟨ht₀, hsame₀⟩ := joinTable?_some hfind
      obtain ⟨r₀, hr₀, rfl⟩ := Diagram.mem_joinTables (hjoins ▸ ht₀)
      obtain ⟨hleft₀, hright₀⟩ := hd.apart r hr r₀ hr₀ (hsame.trans hsame₀.symm)
      exact ⟨hleft₀.trans hl, hright₀.trans hr'⟩
  · intro hall t hfind
    obtain ⟨ht, hsame⟩ := joinTable?_some hfind
    obtain ⟨r, hr, rfl⟩ := Diagram.mem_joinTables (hjoins ▸ ht)
    exact hall r hr hsame

theorem exists_addLink_iff (hjoins : s.joinTables = d.joinTables) (hd : d.Coherent mode) :
    (∃ s', s.addLink r = .ok s') ↔
      ∀ r₁ ∈ (d.add r).pairings, ∀ r₂ ∈ (d.add r).pairings,
        SameName (joinName r₁.left r₁.right) (joinName r₂.left r₂.right) →
          r₁.left = r₂.left ∧ r₁.right = r₂.right := by
  unfold addLink
  rw [Diagram.pairings_add]
  rcases r.reference_or_pairs with ⟨child, parent, href⟩ | hpairs
  · -- a reference makes no table, so nothing can go wrong with names
    obtain ⟨hl, hnot⟩ := Relationship.link_of_reference href
    rw [hl, if_neg hnot, List.append_nil]
    exact ⟨fun _ => hd.apart, fun _ => ⟨_, rfl⟩⟩
  · obtain ⟨hl, _⟩ := Relationship.link_of_pairs hpairs
    rw [hl, if_pos hpairs]
    refine (exists_addPairing_iff_apart hjoins hd).trans ?_
    simp only [List.mem_append, List.mem_singleton]
    constructor
    · intro hnew r₁ h₁ r₂ h₂ hsame
      -- two pairings of before, or the new one against either kind
      rcases h₁ with h₁ | rfl <;> rcases h₂ with h₂ | rfl
      · exact hd.apart r₁ h₁ r₂ h₂ hsame
      · exact hnew r₁ h₁ hsame
      · obtain ⟨hleft, hright⟩ := hnew r₂ h₂ hsame.symm
        exact ⟨hleft.symm, hright.symm⟩
      · exact ⟨rfl, rfl⟩
    · intro hall r₁ h₁ hsame
      exact hall r₁ (Or.inl h₁) r (Or.inr rfl) hsame

/-- **A relationship is accepted exactly when the diagram with it is coherent.** -/
theorem exists_relate_iff (h : s.Reflects d) (hd : d.Coherent mode) :
    (∃ s', s.relate mode r = .ok s') ↔ (d.add r).Coherent mode := by
  have hjoins : (s.withBoth r).joinTables = d.joinTables := by
    rw [withBoth_joinTables]
    exact h.joins
  simp only [relate_ok_iff, exists_and_left]
  rw [ends_declared_iff h hd, exists_addLink_iff hjoins hd]
  exact ⟨fun hboth => ⟨hboth.1, hboth.2⟩, fun hc => ⟨hc.declared, hc.apart⟩⟩

/-! ## All relationships -/

/-- **Relationships are accepted exactly when the diagram with all of them is coherent.** -/
theorem exists_relateAll_iff {rs : List Relationship} (h : s.Reflects d) (hd : d.Coherent mode) :
    (∃ s', s.relateAll mode rs = .ok s') ↔
      Diagram.Coherent mode { d with relationships := d.relationships ++ rs } := by
  induction rs generalizing s d with
  | nil =>
    rw [List.append_nil]
    exact ⟨fun _ => hd, fun _ => ⟨s, rfl⟩⟩
  | cons r rest ih =>
    -- the diagram grows by the relationship, and coherence of the whole passes down to it
    have hsplit : d.relationships ++ r :: rest = (d.add r).relationships ++ rest := by
      simp [Diagram.add]
    rw [hsplit]
    constructor
    · intro hok
      obtain ⟨s', hok⟩ := hok
      obtain ⟨s₁, h₁, h₂⟩ := bind_eq_ok.mp hok
      have hadd := (exists_relate_iff h hd).mp ⟨s₁, h₁⟩
      exact (ih (reflects_relate h h₁) hadd).mp ⟨s', h₂⟩
    · intro hall
      have hadd : (d.add r).Coherent mode := hall.mono rfl (List.subset_append_left _ _)
      obtain ⟨s₁, h₁⟩ := (exists_relate_iff h hd).mpr hadd
      obtain ⟨s', h₂⟩ := (ih (reflects_relate h h₁) hadd).mpr hall
      exact ⟨s', bind_eq_ok.mpr ⟨s₁, h₁, h₂⟩⟩

theorem clash?_none_iff (h : s.Reflects d) :
    s.clash? = none ↔ ∀ r ∈ d.pairings, ∀ name, name ∈ d.entities ∨ name ∈ d.ends →
      ¬ SameName name (joinName r.left r.right) := by
  unfold clash?
  rw [List.find?_eq_none, h.joins]
  constructor
  · intro hfree r hr name hname hsame
    obtain ⟨t, ht, hleft, hright⟩ := Diagram.exists_joinTable hr
    obtain ⟨r₀, _, rfl⟩ := Diagram.mem_joinTables ht
    refine hfree _ ht (List.any_eq_true.mpr ⟨name, ?_, decide_eq_true ?_⟩)
    · exact Std.ExtTreeMap.mem_keys.mpr (h.mem_entities_iff.mpr hname)
    · -- the table may stem from an earlier line with the same two ends
      have he : joinName r.left r.right = joinName r₀.left r₀.right :=
        (congrArg₂ joinName hleft hright).symm
      exact hsame.trans (congrArg foldCase he)
  · intro hfree t ht hany
    obtain ⟨r, hr, rfl⟩ := Diagram.mem_joinTables ht
    obtain ⟨name, hname, hsame⟩ := List.any_eq_true.mp hany
    have hin := h.mem_entities_iff.mp (Std.ExtTreeMap.mem_keys.mp hname)
    exact hfree r hr name hin (of_decide_eq_true hsame)

/-- **A diagram has a schema exactly when it is resolvable.** -/
theorem exists_resolve_iff : (∃ s, resolve mode d = .ok s) ↔ d.Resolvable mode := by
  have hstart : Diagram.Coherent mode ⟨d.entities, []⟩ :=
    ⟨Or.inr (by simp [Diagram.ends]), by simp [Diagram.pairings]⟩
  have hrun : (∃ s, (ofEntities d).relateAll mode d.relationships = .ok s) ↔ d.Coherent mode :=
    exists_relateAll_iff (reflects_ofEntities d) hstart
  constructor
  · intro h
    obtain ⟨s, hs⟩ := h
    obtain ⟨hall, hfree⟩ := resolve_ok_iff.mp hs
    exact ⟨hrun.mp ⟨s, hall⟩, (clash?_none_iff (reflects_resolve hs)).mp hfree⟩
  · intro h
    obtain ⟨s, hs⟩ := hrun.mpr h.toCoherent
    have hreflects := reflects_relateAll (reflects_ofEntities d) hs
    exact ⟨s, resolve_ok_iff.mpr ⟨hs, (clash?_none_iff hreflects).mpr h.free⟩⟩

/-- What a schema holds of the entities and pairs of its diagram. -/
structure Completes (s : Schema) (d : Diagram) : Prop where
  /-- Declared entities are as they were. -/
  declared : ∀ name ∈ d.entities, s.entity? name = d.entities[name]?
  /-- An end that is not declared is an entity without attributes and key. -/
  placeholder : ∀ name ∈ d.ends, name ∉ d.entities → s.entity? name = some ⟨name, [], none, false⟩
  nothingElse : ∀ name ∈ s.entities, name ∈ d.entities ∨ name ∈ d.ends
  /-- There is a join table for each pair, on the line that is the first to have it. -/
  joins : s.joinTables =
    (firsts (fun r => (r.left, r.right)) d.pairings).map fun r => .ofPair r.left r.right r.line

theorem Reflects.completes (h : s.Reflects d) : s.Completes d where
  declared := by
    intro name hname
    obtain ⟨e, he⟩ := (Named.mem_iff_getElem? ..).mp hname
    rw [h.entities, he]
    unfold Diagram.entity? Diagram.entityOf
    rw [if_pos (Or.inl hname), he]
    rfl
  placeholder := by
    intro name hend hnew
    -- what is not declared is a placeholder
    have hnone : d.entities[name]? = none := by simpa using hnew
    rw [h.entities]
    unfold Diagram.entity? Diagram.entityOf
    rw [if_pos (Or.inr hend), hnone]
    rfl
  nothingElse := fun _ hname => h.mem_entities_iff.mp hname
  joins := h.joins

/--
**The diagram decides whether it has a schema, and what entities and join tables that has.**

There is a schema if and only if the ends of relationships are declared or may be synthesized, a
name of a join table belongs to one pair, and to no entity. It then has the declared entities, a
placeholder for each other end, nothing else, and one join table for each pair. The conditions
do not speak of order, so relationships may be rearranged.
-/
theorem resolve_outcome (mode : Undeclared) (d : Diagram) :
    ((∃ s, resolve mode d = .ok s) ↔ d.Resolvable mode) ∧
    (∀ s, resolve mode d = .ok s → s.Completes d) ∧
    ∀ d' : Diagram, d'.entities = d.entities → d'.relationships.Perm d.relationships →
      ((∃ s, resolve mode d' = .ok s) ↔ ∃ s, resolve mode d = .ok s) := by
  refine ⟨exists_resolve_iff, fun s hs => (reflects_resolve hs).completes,
    fun d' he hperm => ?_⟩
  rw [exists_resolve_iff, exists_resolve_iff]
  exact ⟨fun h => h.mono he.symm hperm.symm.subset, fun h => h.mono he hperm.subset⟩

/-- Pairs in both orders and a repetition, of an entity that is declared and one that is not. -/
def bothWays : Diagram :=
  .ofText ("entity A \x7b\n\x7d\nA \x7do--o\x7b B\n" ++ "B \x7do--o\x7b A\nA \x7do--o\x7b B\n")

theorem resolve_outcome_bothWays :
    ∃ s, resolve .synthesize bothWays = .ok s ∧ bothWays.Resolvable .synthesize ∧
      "B" ∈ bothWays.ends ∧ "B" ∉ bothWays.entities ∧
      s.entity? "B" = some ⟨"B", [], none, false⟩ ∧
      s.joinTables = [.ofPair "A" "B" 3, .ofPair "B" "A" 4] ∧ s.Completes bothWays ∧
      (∃ s', resolve .synthesize ⟨bothWays.entities, bothWays.relationships.reverse⟩ = .ok s') ∧
      ¬ bothWays.Resolvable .reject := by
  have heval : (resolve .synthesize bothWays).toOption.any (fun s =>
      decide ("B" ∈ bothWays.ends ∧ "B" ∉ bothWays.entities ∧
        s.joinTables = [.ofPair "A" "B" 3, .ofPair "B" "A" 4])) = true := by
    decide +kernel
  have hstrict : (resolve .reject bothWays).toOption.isNone = true := by
    decide +kernel
  obtain ⟨s, hs, htest⟩ := exists_ok_of_any heval
  obtain ⟨hend, hnew, hjoins⟩ := of_decide_eq_true htest
  obtain ⟨hiff, hresult, hperm⟩ := resolve_outcome .synthesize bothWays
  obtain ⟨hstrictIff, _⟩ := resolve_outcome .reject bothWays
  have hcompletes := hresult s hs
  refine ⟨s, hs, hiff.mp ⟨s, hs⟩, hend, hnew, hcompletes.placeholder "B" hend hnew, hjoins,
    hcompletes, (hperm ⟨_, bothWays.relationships.reverse⟩ rfl (List.reverse_perm _)).mpr ⟨s, hs⟩,
    fun hres => ?_⟩
  obtain ⟨s', hs'⟩ := hstrictIff.mpr hres
  rw [hs'] at hstrict
  exact absurd hstrict (by simp [Except.toOption])

end Schema

end Crowfoot
