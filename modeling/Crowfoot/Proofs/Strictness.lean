import Crowfoot.Proofs.Columns
import Crowfoot.Proofs.Declaration
import Crowfoot.Proofs.Resolvable

/-!
# Strict and lenient resolution

A strict run does what a lenient run does until a relationship names an undeclared entity, and then
it ends. So a strict run that succeeds is a lenient run without placeholders. The other way round,
what keeps a diagram from having a schema is the same in both modes but for undeclared ends, and a
lenient schema has a placeholder for each of these.

Relationships are taken in the order of their lines, so the end that is refused stands on the first
line with an undeclared end.
-/

namespace Crowfoot

open Text

/-! ## Relationships in the order of their lines -/

theorem Line.line_of_relates? {line : Line} {number : Nat} {r : Relationship}
    (h : line.relates? number = some r) : r.line = number := by
  cases line with
  | relationship left connector right label =>
    rw [← Option.some.inj h]
  | _ => exact absurd h nofun

theorem relationshipsFrom_ascending (number : Nat) (lines : List Line) :
    (relationshipsFrom number lines).Pairwise (·.line < ·.line) := by
  have hnumbers : (lines.zipIdx number).Pairwise (·.2 < ·.2) := by
    rw [← List.pairwise_map, List.zipIdx_map_snd]
    exact List.pairwise_lt_range'
  unfold relationshipsFrom
  rw [List.pairwise_filterMap]
  refine hnumbers.imp fun {x y} hlt r hr r' hr' => ?_
  rw [Line.line_of_relates? hr, Line.line_of_relates? hr']
  exact hlt

/-! ## The first undeclared end -/

namespace Schema

variable {s s' : Schema} {d : Diagram} {r : Relationship} {rs : List Relationship}
  {entity relationship : String} {line : Nat}

theorem withEntity_error {name : String}
    (h : s.withEntity .reject r name = .error (.undeclaredEntity entity relationship line)) :
    entity ∉ s.entities ∧ entity = name ∧ relationship = r.text ∧ line = r.line := by
  unfold withEntity at h
  split at h
  · exact absurd h nofun
  · rename_i hnew
    obtain ⟨rfl, rfl, rfl⟩ := ResolutionError.undeclaredEntity.inj (Except.error.inj h)
    exact ⟨hnew, rfl, rfl, rfl⟩

theorem withEnds_error
    (h : s.withEnds .reject r = .error (.undeclaredEntity entity relationship line)) :
    entity ∉ s.entities ∧ (entity = r.left ∨ entity = r.right) ∧ relationship = r.text ∧
      line = r.line := by
  rcases bind_eq_error.mp h with h | ⟨s₁, hleft, h⟩
  · obtain ⟨hnew, hname, hrest⟩ := withEntity_error h
    exact ⟨hnew, Or.inl hname, hrest⟩
  · obtain ⟨hnew, hname, hrest⟩ := withEntity_error h
    -- the left end was there, so nothing has been added
    obtain ⟨hin, rfl⟩ := withEntity_ok_iff.mp hleft
    unfold ensured at hnew
    rw [if_pos (hin.resolve_left nofun)] at hnew
    exact ⟨hnew, Or.inr hname, hrest⟩

theorem addLink_ne_undeclared :
    s.addLink r ≠ .error (.undeclaredEntity entity relationship line) := by
  intro h
  unfold addLink at h
  rcases r.link_cases with hlink | hlink | hlink <;> rw [hlink] at h
  · exact absurd h nofun
  · exact absurd h nofun
  · unfold addPairing at h
    dsimp only at h
    split at h
    · split at h
      · exact absurd h nofun
      · exact absurd (Except.error.inj h) nofun
    · exact absurd h nofun

theorem addLink_entities (h : s.addLink r = .ok s') : s'.entities = s.entities := by
  unfold addLink at h
  rcases r.link_cases with hlink | hlink | hlink <;> rw [hlink] at h
  · rw [← Except.ok.inj h]
    exact (addReference_rest s _ _).1
  · rw [← Except.ok.inj h]
    exact (addReference_rest s _ _).1
  · rcases addPairing_cases h with ⟨_, rfl⟩ | ⟨_, rfl⟩
    · rfl
    · rfl

/-- A relationship that is accepted in strict mode adds no entity. -/
theorem relate_reject_entities (h : s.relate .reject r = .ok s') :
    (r.left ∈ s.entities ∧ r.right ∈ s.entities) ∧ s'.entities = s.entities := by
  obtain ⟨hends, hlink⟩ := relate_ok_iff.mp h
  replace hends := hends.resolve_left nofun
  have hsame : s.withBoth r = s := by
    unfold withBoth ensured
    rw [if_pos hends.1, if_pos hends.2]
  rw [hsame] at hlink
  exact ⟨hends, addLink_entities hlink⟩

/-- The relationship that is refused is the first one with an undeclared end. -/
theorem relateAll_error
    (h : s.relateAll .reject rs = .error (.undeclaredEntity entity relationship line)) :
    ∃ before r after, rs = before ++ r :: after ∧
      (∀ r' ∈ before, r'.left ∈ s.entities ∧ r'.right ∈ s.entities) ∧
      entity ∉ s.entities ∧ (entity = r.left ∨ entity = r.right) ∧ relationship = r.text ∧
      line = r.line := by
  induction rs generalizing s with
  | nil => exact absurd h nofun
  | cons r rest ih =>
    rcases bind_eq_error.mp h with h | ⟨s₁, hok, h⟩
    · -- this relationship is refused, and a link never is for want of a declaration
      rcases bind_eq_error.mp h with h | ⟨s₀, _, h⟩
      · exact ⟨[], r, rest, rfl, by simp, withEnds_error h⟩
      · exact absurd h addLink_ne_undeclared
    · -- it is accepted, so both its ends are there and it adds no entity
      obtain ⟨hends, hsame⟩ := relate_reject_entities hok
      obtain ⟨before, r', after, hsplit, hbefore, hnew, hrest⟩ := ih h
      rw [hsame] at hbefore hnew
      refine ⟨r :: before, r', after, by rw [hsplit]; rfl, ?_, hnew, hrest⟩
      exact List.forall_mem_cons.mpr ⟨hends, hbefore⟩

theorem resolve_error
    (h : resolve .reject d = .error (.undeclaredEntity entity relationship line)) :
    ∃ before r after, d.relationships = before ++ r :: after ∧
      (∀ r' ∈ before, r'.left ∈ d.entities ∧ r'.right ∈ d.entities) ∧
      entity ∉ d.entities ∧ (entity = r.left ∨ entity = r.right) ∧ relationship = r.text ∧
      line = r.line := by
  rcases bind_eq_error.mp h with h | ⟨s, _, h⟩
  · exact relateAll_error h
  · split at h
    · exact absurd (Except.error.inj h) nofun
    · exact absurd h nofun

/-! ## Both modes -/

theorem relateAll_synthesize (h : s.relateAll .reject rs = .ok s') :
    s.relateAll .synthesize rs = .ok s' := by
  induction rs generalizing s with
  | nil => exact h
  | cons r rest ih =>
    obtain ⟨s₁, h₁, h₂⟩ := bind_eq_ok.mp h
    obtain ⟨_, hlink⟩ := relate_ok_iff.mp h₁
    exact bind_eq_ok.mpr ⟨s₁, relate_ok_iff.mpr ⟨Or.inl rfl, hlink⟩, ih h₂⟩

/-- **A strict schema is the lenient one.** -/
theorem resolve_synthesize (h : resolve .reject d = .ok s) : resolve .synthesize d = .ok s := by
  obtain ⟨hall, hfree⟩ := resolve_ok_iff.mp h
  exact resolve_ok_iff.mpr ⟨relateAll_synthesize hall, hfree⟩

/-- **A lenient schema whose entities are all declared is the strict one.** -/
theorem resolve_reject (h : resolve .synthesize d = .ok s)
    (hdeclared : ∀ name e, s.entity? name = some e → e.declared = true) :
    resolve .reject d = .ok s := by
  have hends : ∀ name ∈ d.ends, name ∈ d.entities := by
    intro name hend
    by_contra hnew
    -- the placeholder for the name would not be declared
    have hplace := (reflects_resolve h).completes.placeholder name hend hnew
    exact absurd (hdeclared name _ hplace) nofun
  have hlenient := exists_resolve_iff.mp ⟨s, h⟩
  have hstrict : d.Resolvable .reject := ⟨⟨Or.inr hends, hlenient.apart⟩, hlenient.free⟩
  obtain ⟨s', hs'⟩ := exists_resolve_iff.mpr hstrict
  obtain rfl := Except.ok.inj ((resolve_synthesize hs').symm.trans h)
  exact hs'

/-- The entities of a strict schema are those of the diagram. -/
theorem entity?_of_resolve_reject (h : resolve .reject d = .ok s) (name : String) :
    s.entity? name = d.entities[name]? := by
  have hends := (exists_resolve_iff.mp ⟨s, h⟩).declared.resolve_left nofun
  have hcompletes := (reflects_resolve h).completes
  by_cases hin : name ∈ d.entities
  · exact hcompletes.declared name hin
  · have hout : name ∉ s.entities := fun hs =>
      hin ((hcompletes.nothingElse name hs).elim id (hends name))
    rw [Std.ExtTreeMap.getElem?_eq_none hin]
    exact Std.ExtTreeMap.getElem?_eq_none hout

end Schema

/-! ## Plans of texts -/

theorem Diagram.declared_ofText {text name : String} {e : Entity}
    (h : (ofText text).entities[name]? = some e) : e.declared = true := by
  rw [ofText_entities] at h
  obtain ⟨_, _, rfl⟩ := Option.map_eq_some_iff.mp h
  rfl

namespace Plan

variable {mode : Undeclared} {text : String} {p : Plan}

theorem ofText_ok_iff :
    ofText mode text = .ok p ↔
      ∃ s, Schema.resolve mode (.ofText text) = .ok s ∧ p = ofSchema s := by
  unfold ofText ofDiagram
  cases Schema.resolve mode (.ofText text) with
  | error e => simp [Except.map]
  | ok s => simp [Except.map, eq_comm]

theorem ofText_error_iff {e : ResolutionError} :
    ofText mode text = .error e ↔ Schema.resolve mode (.ofText text) = .error e := by
  rw [ofText, ofDiagram, map_eq_error]

/--
**Strict and lenient plans agree.**

A text has a strict plan if and only if it has that plan leniently and all entities in it are
declared. Where the strict plan is refused for an undeclared entity, no line opens a block for the
entity, the relationship on the reported line names it, and on no line before that one is there a
relationship with an undeclared end.
-/
theorem strict_iff_lenient (text : String) :
    (∀ p, ofText .reject text = .ok p ↔ ofText .synthesize text = .ok p ∧
      ∀ name e, p.schema.entity? name = some e → e.declared = true) ∧
    ∀ entity relationship line,
      ofText .reject text = .error (.undeclaredEntity entity relationship line) →
      .entityOpen entity ∉ readLines text ∧
      (∃ r ∈ relationshipsFrom 1 (readLines text), r.line = line ∧ r.text = relationship ∧
        (entity = r.left ∨ entity = r.right)) ∧
      ∀ r ∈ relationshipsFrom 1 (readLines text),
        .entityOpen r.left ∉ readLines text ∨ .entityOpen r.right ∉ readLines text →
        line ≤ r.line := by
  refine ⟨fun p => ?_, fun entity relationship line h => ?_⟩
  · rw [ofText_ok_iff, ofText_ok_iff]
    constructor
    · intro h
      obtain ⟨s, hs, rfl⟩ := h
      refine ⟨⟨s, Schema.resolve_synthesize hs, rfl⟩, fun name e he => ?_⟩
      replace he : s.entity? name = some e := he
      rw [Schema.entity?_of_resolve_reject hs] at he
      exact Diagram.declared_ofText he
    · intro h
      obtain ⟨⟨s, hs, rfl⟩, hdeclared⟩ := h
      exact ⟨s, Schema.resolve_reject hs hdeclared, rfl⟩
  · have hopen := (Diagram.declaredBy_ofText text).declared
    obtain ⟨before, r, after, hsplit, hbefore, hnew, hend, rfl, rfl⟩ :=
      Schema.resolve_error (ofText_error_iff.mp h)
    rw [Diagram.ofText_relationships] at hsplit
    have hmem : r ∈ relationshipsFrom 1 (readLines text) := hsplit ▸ by simp
    refine ⟨fun hin => hnew ((hopen entity).mpr hin), ⟨r, hmem, rfl, rfl, hend⟩, ?_⟩
    intro r' hr' hundeclared
    have hascending := relationshipsFrom_ascending 1 (readLines text)
    rw [hsplit] at hr' hascending
    rcases List.mem_append.mp hr' with hr' | hr'
    · -- the ends of those before are declared
      obtain ⟨hleft, hright⟩ := hbefore r' hr'
      rcases hundeclared with hout | hout
      · exact absurd ((hopen _).mp hleft) hout
      · exact absurd ((hopen _).mp hright) hout
    · rcases List.mem_cons.mp hr' with rfl | hr'
      · exact Nat.le_refl _
      · have hafter := (List.pairwise_append.mp hascending).2.1
        exact Nat.le_of_lt ((List.pairwise_cons.mp hafter).1 r' hr')

/-- Entities that are declared behind the relationship that names them. -/
def declaredLater : String := "A ||--o\x7b B\nentity B \x7b\n\x7d\nentity A \x7b\n\x7d\n"

/-- Two relationships with undeclared ends behind one without. -/
def neverDeclared : String :=
  "A ||--o\x7b A\nentity A \x7b\n\x7d\nA \x7do--o\x7b B\nC ||--o\x7b A\n"

theorem strict_iff_lenient_later :
    (∃ p, ofText .reject declaredLater = .ok p ∧ ofText .synthesize declaredLater = .ok p ∧
      p.schema.keysOf "B" = [⟨"A_id", "A", none⟩] ∧
      ∀ name e, p.schema.entity? name = some e → e.declared = true) ∧
    ofText .reject neverDeclared = .error (.undeclaredEntity "B" "A \x7do--o\x7b B" 4) ∧
    .entityOpen "B" ∉ readLines neverDeclared ∧
    (∃ r ∈ relationshipsFrom 1 (readLines neverDeclared), r.line = 4 ∧
      r.text = "A \x7do--o\x7b B" ∧ ("B" = r.left ∨ "B" = r.right)) ∧
    ∀ r ∈ relationshipsFrom 1 (readLines neverDeclared),
      .entityOpen r.left ∉ readLines neverDeclared ∨ .entityOpen r.right ∉ readLines neverDeclared →
      4 ≤ r.line := by
  have hlater : (ofText .reject declaredLater).toOption.any (fun p =>
      decide (p.schema.keysOf "B" = [⟨"A_id", "A", none⟩])) = true := by
    decide +kernel
  have hnever : (ofText .reject neverDeclared).map (fun _ => ())
      = .error (.undeclaredEntity "B" "A \x7do--o\x7b B" 4) := by
    decide +kernel
  obtain ⟨p, hp, htest⟩ := exists_ok_of_any hlater
  obtain ⟨hiff, _⟩ := strict_iff_lenient declaredLater
  obtain ⟨_, hfirst⟩ := strict_iff_lenient neverDeclared
  obtain ⟨hlenient, hdeclared⟩ := (hiff p).mp hp
  have herror := map_eq_error.mp hnever
  exact ⟨⟨p, hp, hlenient, of_decide_eq_true htest, hdeclared⟩, herror, hfirst _ _ _ herror⟩

end Plan

end Crowfoot
