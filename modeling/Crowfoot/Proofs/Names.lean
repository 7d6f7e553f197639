import Crowfoot.Proofs.Declaration
import Crowfoot.Proofs.Lexing
import Crowfoot.Proofs.Reflection

/-!
# What a text can spell

Whatever a line is read as, the names on it are runs of letters, numbers and underscores, and the
type on it is one that a word stands for. A diagram has its names and types from lines, and a schema
has them from its diagram, so the same is true of every entity of a plan, declared or not.

The word of such a type stands for no other, so types that texts can name are told apart by their
words.
-/

namespace Crowfoot

open Text

/-- A type that some word stands for. -/
def DataType.Spelled (t : DataType) : Prop := ∃ token, t = .ofToken token

/-- An attribute that some line can declare. -/
structure Attribute.Spelled (a : Attribute) : Prop where
  name : IsName a.name
  type : a.type.Spelled
  unbroken : Unbroken a.type.token

/-- An entity that some text can have. -/
structure Entity.Spelled (e : Entity) : Prop where
  name : IsName e.name
  attributes : ∀ a ∈ e.attributes, a.Spelled

/-- The names on the line are names, and the type is named by a word. -/
def Line.Spelled : Line → Prop
  | entityOpen name => IsName name
  | attr a => a.Spelled
  | relationship left _ right _ => IsName left ∧ IsName right
  | _ => True

/-! ## Types -/

/-- The word of a type stands for it, if any word does. -/
theorem DataType.Spelled.ofToken_token {t : DataType} (h : t.Spelled) : ofToken t.token = t := by
  obtain ⟨token, rfl⟩ := h
  unfold ofToken
  split
  · rfl
  · split
    · rfl
    · split
      · rfl
      · split
        · rfl
        · simp [DataType.token, *]

theorem DataType.Spelled.token_inj {t t' : DataType} (h : t.Spelled) (h' : t'.Spelled)
    (htoken : t.token = t'.token) : t = t' := by
  rw [← h.ofToken_token, htoken, h'.ofToken_token]

/-- The word of the type that a word stands for has no blanks if that word has none. -/
theorem DataType.unbroken_ofToken {token : String} (h : Unbroken token) :
    Unbroken (ofToken token).token := by
  unfold ofToken
  split
  · decide +kernel
  · split
    · decide +kernel
    · split
      · decide +kernel
      · split
        · decide +kernel
        · exact h

/-! ## Lines -/

namespace Line

variable {cs rest : List Char}

theorem isName_of_name? {name : String} (h : name? cs = some (name, rest)) : IsName name :=
  all_of_run? h

theorem isName_of_entityOpen? {name : String} (h : entityOpen? cs = some name) : IsName name := by
  obtain ⟨rest, _, h⟩ := Option.bind_eq_some_iff.mp h
  obtain ⟨_, _, h⟩ := Option.bind_eq_some_iff.mp h
  obtain ⟨⟨found, rest⟩, hname, h⟩ := Option.bind_eq_some_iff.mp h
  obtain ⟨_, _, h⟩ := Option.bind_eq_some_iff.mp h
  rw [← Option.some.inj h]
  exact isName_of_name? hname

theorem spelled_of_relationship? {line : Line} (h : relationship? cs = some line) :
    line.Spelled := by
  obtain ⟨⟨left, rest⟩, hleft, h⟩ := Option.bind_eq_some_iff.mp h
  obtain ⟨⟨connector, rest⟩, _, h⟩ := Option.bind_eq_some_iff.mp h
  obtain ⟨⟨right, rest⟩, hright, h⟩ := Option.bind_eq_some_iff.mp h
  obtain ⟨label, _, h⟩ := Option.bind_eq_some_iff.mp h
  rw [← Option.some.inj h]
  exact ⟨isName_of_name? hleft, isName_of_name? hright⟩

theorem spelled_of_attribute? {a : Attribute} (h : attribute? cs = some a) : a.Spelled := by
  obtain ⟨⟨name, rest⟩, hname, h⟩ := Option.bind_eq_some_iff.mp h
  obtain ⟨rest, _, h⟩ := Option.bind_eq_some_iff.mp h
  obtain ⟨⟨token, rest⟩, htoken, h⟩ := Option.bind_eq_some_iff.mp h
  obtain ⟨stereotype, _, h⟩ := Option.bind_eq_some_iff.mp h
  rw [← Option.some.inj h]
  refine ⟨isName_of_name? hname, ⟨token, rfl⟩, DataType.unbroken_ofToken fun c hc => ?_⟩
  exact (isTypeChar_iff.mp ((all_of_run? htoken).2 c hc)).1

/-- **Whatever a line is read as, its names are names.** -/
theorem spelled_ofText (raw : List Char) : (ofText raw).Spelled := by
  unfold ofText
  dsimp only
  split
  · trivial
  · split
    · trivial
    · split
      · trivial
      · split
        · rename_i name hname
          exact isName_of_entityOpen? hname
        · split
          · rename_i line hline
            exact spelled_of_relationship? hline
          · split
            · rename_i a ha
              exact spelled_of_attribute? ha
            · trivial

end Line

/-! ## Diagrams and plans -/

theorem spelled_of_mem_readLines {text : String} {line : Line} (h : line ∈ readLines text) :
    line.Spelled := by
  obtain ⟨raw, _, rfl⟩ := List.mem_map.mp h
  exact Line.spelled_ofText raw

theorem attr_mem_of_blockAttributes {lines : List Line} {a : Attribute}
    (h : a ∈ blockAttributes lines) : .attr a ∈ lines := by
  obtain ⟨line, hline, ha⟩ := List.mem_filterMap.mp h
  have hmem := (List.takeWhile_sublist _).subset hline
  cases line with
  | attr a' =>
    rw [← Option.some.inj ha]
    exact hmem
  | _ => exact absurd ha nofun

namespace Diagram

variable {text : String}

theorem spelled_entity {name : String} {e : Entity} (h : (ofText text).entities[name]? = some e) :
    e.Spelled := by
  rw [ofText_entities] at h
  obtain ⟨attributes, hlast, rfl⟩ := Option.map_eq_some_iff.mp h
  obtain ⟨before, after, hsplit, _, rfl⟩ := lastBlock?_eq_some_iff.mp hlast
  have hlines : ∀ line ∈ .entityOpen name :: after, line.Spelled := by
    intro line hline
    have hmem : line ∈ readLines text := hsplit ▸ List.mem_append_right _ hline
    exact spelled_of_mem_readLines hmem
  constructor
  · exact hlines _ (List.mem_cons_self ..)
  · intro a ha
    exact hlines _ (List.mem_cons_of_mem _ (attr_mem_of_blockAttributes ha))

theorem isName_of_mem_ends {name : String} (h : name ∈ (ofText text).ends) : IsName name := by
  obtain ⟨r, hr, hend⟩ := List.mem_flatMap.mp h
  rw [ofText_relationships] at hr
  obtain ⟨⟨line, number⟩, hline, hrelates⟩ := List.mem_filterMap.mp hr
  have hspelled := spelled_of_mem_readLines (List.fst_mem_of_mem_zipIdx hline)
  cases line with
  | relationship left connector right label =>
    obtain rfl := Option.some.inj hrelates
    simp only [List.mem_cons, List.not_mem_nil, or_false] at hend
    rcases hend with rfl | rfl
    · exact hspelled.1
    · exact hspelled.2
  | _ => exact absurd hrelates nofun

end Diagram

/-- **The entities of a schema of a text have names, and so have their attributes and types.** -/
theorem Schema.spelled_of_resolve {mode : Undeclared} {text : String} {s : Schema}
    (h : resolve mode (.ofText text) = .ok s) {name : String} {e : Entity}
    (he : s.entity? name = some e) : e.Spelled := by
  rw [(reflects_resolve h).entities] at he
  unfold Diagram.entity? Diagram.entityOf at he
  split at he
  · rename_i hin
    cases hd : (Diagram.ofText text).entities[name]? with
    | some e' =>
      rw [hd] at he
      rw [← Option.some.inj he]
      exact Diagram.spelled_entity hd
    | none =>
      rw [hd] at he
      rw [← Option.some.inj he]
      -- an entity that is not declared is the end of some relationship
      have hend : name ∈ (Diagram.ofText text).ends :=
        hin.resolve_left fun hmem => absurd hmem (by simpa using hd)
      exact ⟨Diagram.isName_of_mem_ends hend, nofun⟩
  · exact absurd he nofun

end Crowfoot
