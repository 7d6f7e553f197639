import Crowfoot.Proofs.Noise

/-!
# Gaps around a connector

Spaces and tabs may stand on both sides of a connector, and none need be there. They make no
difference to what a relationship is read as, with one exception. The end `o|` begins with a letter,
and a name is as long as possible: without a gap between them the letter goes to the name, and what
is left of the connector is none. The line is not read at all then.
-/

namespace Crowfoot

open Text

theorem Stops.reverse_cons {p : Char → Bool} {c : Char} {cs : List Char} (hc : p c = false)
    (h : Stops p cs.reverse) : Stops p (c :: cs).reverse := by
  cases cs with
  | nil => exact Stops.cons_iff.mpr hc
  | cons d rest =>
    rw [← List.singleton_append]
    exact Stops.reverse_append (List.cons_ne_nil d rest) h

/-- The connector begins with a letter, which a name in front of it takes. -/
def Connector.BeginsLikeName (c : Connector) : Prop := c.left = "o|"

instance (c : Connector) : Decidable c.BeginsLikeName := inferInstanceAs (Decidable (c.left = "o|"))

namespace Line

variable {left right : String} {connector : Connector} {gap gap₂ gap₃ tail : List Char}
  {label : Option String}

/-- The parts of a relationship with gaps between them. What follows the names may be a label. -/
def spaced (left : String) (gap : List Char) (connector : Connector) (gap₂ : List Char)
    (right : String) (gap₃ tail : List Char) : List Char :=
  left.toList ++ (gap ++ (connector.text.toList ++ (gap₂ ++ (right.toList ++ (gap₃ ++ tail)))))

/-! ## Blanks at the end of the line -/

/-- A text without the blanks at its end. -/
theorem exists_core (cs : List Char) :
    ∃ core back, cs = core ++ back ∧ Stops isBlank core.reverse ∧ ∀ c ∈ back, isBlank c = true := by
  refine ⟨(cs.reverse.dropWhile isBlank).reverse, (cs.reverse.takeWhile isBlank).reverse, ?_, ?_,
    fun c hc => ?_⟩
  · rw [← List.reverse_append, List.takeWhile_append_dropWhile, List.reverse_reverse]
  · rw [List.reverse_reverse]
    exact stops_dropWhile isBlank cs.reverse
  · exact List.all_eq_true.mp List.all_takeWhile c (List.mem_reverse.mp hc)

theorem LabelPart.exists_core (h : LabelPart tail label) (hne : tail ≠ []) :
    ∃ core back, tail = core ++ back ∧ LabelPart core label ∧ core ≠ [] ∧
      Stops isBlank core.reverse ∧ ∀ c ∈ back, isBlank c = true := by
  have hcolon : isBlank ':' = false := by decide
  cases h with
  | absent => exact absurd rfl hne
  | @empty text hempty =>
    obtain ⟨core, back, rfl, hend, hback⟩ := Line.exists_core text
    rw [trim_append_blank hback] at hempty
    exact ⟨':' :: core, back, rfl, .empty hempty, List.cons_ne_nil _ _, hend.reverse_cons hcolon,
      hback⟩
  | @given text hgiven =>
    obtain ⟨core, back, rfl, hend, hback⟩ := Line.exists_core text
    rw [trim_append_blank hback] at hgiven ⊢
    exact ⟨':' :: core, back, rfl, .given hgiven, List.cons_ne_nil _ _, hend.reverse_cons hcolon,
      hback⟩

/-- **Blanks at the end do not change what the parts are.** -/
theorem trim_spaced (gap : List Char) (connector : Connector) (gap₂ : List Char)
    (hleft : IsName left) (hright : IsName right) (hgap₃ : IsGap gap₃)
    (hlabel : LabelPart tail label) :
    ∃ gap₃' tail', IsGap gap₃' ∧ LabelPart tail' label ∧
      trim (spaced left gap connector gap₂ right gap₃ tail) =
        spaced left gap connector gap₂ right gap₃' tail' := by
  have hstart : ∀ gap₃ tail, Stops isBlank (spaced left gap connector gap₂ right gap₃ tail) :=
    fun _ _ => stops_name hleft (fun _ => not_isBlank_of_isNameChar) _
  by_cases hnil : tail = []
  · subst hnil
    refine ⟨[], [], fun _ => nofun, hlabel, ?_⟩
    -- without a label the line ends with a name, so only the last gap is cut off
    have hend : Stops isBlank (spaced left gap connector gap₂ right [] []).reverse := by
      have hname : Stops isBlank right.toList.reverse :=
        .of_forall fun c hc => not_isBlank_of_isNameChar (hright.2 c (List.mem_reverse.mp hc))
      have hsplit : spaced left gap connector gap₂ right [] [] =
          (left.toList ++ gap ++ connector.text.toList ++ gap₂) ++ right.toList := by
        simp [spaced]
      rw [hsplit]
      exact Stops.reverse_append (fun hnil => hright.1 (String.toList_eq_nil_iff.mp hnil)) hname
    have hsplit : spaced left gap connector gap₂ right gap₃ [] =
        spaced left gap connector gap₂ right [] [] ++ gap₃ := by
      simp [spaced]
    rw [hsplit, trim_append_blank fun c hc => isBlank_of_isGap (hgap₃ c hc)]
    exact trim_eq_self_iff.mpr ⟨hstart _ _, hend⟩
  · obtain ⟨core, back, rfl, hcore, hne, hend, hback⟩ := hlabel.exists_core hnil
    refine ⟨gap₃, core, hgap₃, hcore, ?_⟩
    -- with one, what is cut off stands behind the core of the label
    have hsplit : ∀ rest, spaced left gap connector gap₂ right gap₃ rest =
        spaced left gap connector gap₂ right gap₃ [] ++ rest := by
      simp [spaced]
    rw [hsplit (core ++ back), ← List.append_assoc, trim_append_blank hback, ← hsplit]
    refine trim_eq_self_iff.mpr ⟨hstart _ _, ?_⟩
    rw [hsplit]
    exact Stops.reverse_append hne hend

/-! ## Connectors that begin with a letter -/

/-- **Only the end `o|` begins like a name.** -/
theorem stops_connector_iff (h : connector.Recognized) :
    Stops isNameChar connector.text.toList ↔ ¬ connector.BeginsLikeName := by
  have htext : connector.text.toList =
      connector.left.toList ++ (connector.body.toList ++ connector.right.toList) := by
    rw [Connector.text, String.toList_append, String.toList_append, List.append_assoc]
  have hleft := h.left
  simp only [Connector.leftEnds, List.mem_cons, List.not_mem_nil, or_false] at hleft
  unfold Connector.BeginsLikeName
  rw [htext]
  rcases hleft with he | he | he | he | he <;> rw [he] <;> refine Stops.cons_iff.trans ?_
  · decide
  · decide
  · decide
  · decide
  · decide

/-- Without a gap in between the letter is the last of the name. -/
theorem letter_append (left : String) (h : connector.Recognized)
    (hletter : connector.BeginsLikeName) (rest : List Char) :
    ∃ d rest', (d = '-' ∨ d = '.') ∧
      left.toList ++ (connector.text.toList ++ rest) =
        (left ++ "o").toList ++ '|' :: d :: rest' := by
  have htext : connector.text.toList =
      'o' :: '|' :: (connector.body.toList ++ connector.right.toList) := by
    rw [Connector.text, String.toList_append, String.toList_append, List.append_assoc, hletter]
    rfl
  have hname : (left ++ "o").toList = left.toList ++ ['o'] := String.toList_append
  rw [htext, hname]
  rcases List.mem_pair.mp h.body with hbody | hbody <;> rw [hbody]
  · exact ⟨'-', '-' :: (connector.right.toList ++ rest), Or.inl rfl, by simp⟩
  · exact ⟨'.', '.' :: (connector.right.toList ++ rest), Or.inr rfl, by simp⟩

section

variable {name : String} {d : Char}

theorem relationship?_bar (hname : IsName name) (hd : d = '-' ∨ d = '.') (rest : List Char) :
    relationship? (name.toList ++ '|' :: d :: rest) = none := by
  have hconnector : connector? ('|' :: d :: rest) = none := by
    rcases hd with rfl | rfl <;> rfl
  have hbar : ∀ p : Char → Bool, p '|' = false → Stops p ('|' :: d :: rest) :=
    fun p hp => Stops.cons_iff.mpr hp
  unfold relationship?
  simp only [name?_append hname (hbar _ (by decide)), skipGap_of_stops (hbar _ (by decide)),
    hconnector, Option.bind_eq_bind, Option.bind_some, Option.bind_none]

/-- **A bar behind the first name that begins no connector is nothing that is known.** -/
theorem ofText_bar (hname : IsName name) (hd : d = '-' ∨ d = '.') (rest : List Char) :
    ofText (name.toList ++ '|' :: d :: rest) = .unrecognized := by
  have hmark : isBlank d = false ∧ d ≠ quote := by
    rcases hd with rfl | rfl <;> decide
  have hfront : name.toList ++ ['|', d] ≠ [] := by simp
  have hstart : Stops isBlank (name.toList ++ ['|', d]) :=
    stops_name hname (fun _ => not_isBlank_of_isNameChar) _
  have hend : Stops isBlank (name.toList ++ ['|', d]).reverse :=
    Stops.reverse_append (List.cons_ne_nil _ _) (Stops.cons_iff.mpr hmark.1)
  have hquote : ∀ c ∈ name.toList ++ ['|', d], c ≠ quote := by
    intro c hc
    simp only [List.mem_append, List.mem_cons, List.not_mem_nil, or_false] at hc
    rcases hc with hc | rfl | rfl
    · exact ne_of_isNameChar (hname.2 c hc) (by decide)
    · decide
    · exact hmark.2
  -- whatever is cut off, the bar stays where it is
  have hsplit : ∀ rest, name.toList ++ ['|', d] ++ rest = name.toList ++ '|' :: d :: rest := by
    simp
  obtain ⟨rest₁, htrim⟩ := trim_append hfront hstart hend rest
  obtain ⟨rest₂, hunquoted⟩ := unquoted_append hfront hstart hend hquote rest₁
  rw [hsplit, hsplit] at htrim
  rw [hsplit, hsplit] at hunquoted
  have hself : trim (name.toList ++ '|' :: d :: rest₁) = name.toList ++ '|' :: d :: rest₁ := by
    rw [← htrim, trim_trim]
  have hopen : entityOpen? (name.toList ++ '|' :: d :: rest₁) = none := by
    rw [Option.eq_none_iff_forall_ne_some]
    intro other hother
    have hopening := (entityOpen?_eq_some_iff (trim_eq_self_iff.mp hself).2).mp hother
    have hbar : '|' ∈ name.toList ++ '|' :: d :: rest₁ := by simp
    exact absurd (hopening.chars hbar) (by decide)
  have hattribute : attribute? (unquoted (name.toList ++ '|' :: d :: rest₁)) = none := by
    rw [hunquoted]
    rw [← List.nil_append ('|' :: d :: rest₂)]
    exact attribute?_of_ne_colon hname (fun _ => nofun) (Stops.cons_iff.mpr (by decide))
      (Stops.cons_iff.mpr (by decide)) (by simp)
  obtain ⟨c, cs, hcs, hc⟩ := hname.exists_cons
  obtain ⟨_, hnotQuote, hnotClose, hnotDash⟩ := start_of_isNameChar hc
  rw [← ofText_trim, htrim]
  unfold ofText
  unfold unquoted at hattribute
  rw [hself]
  simp only [hopen, relationship?_bar hname hd, hattribute]
  simp [hcs, hnotQuote, hnotClose, hnotDash]

end

/-! ## Reading the parts -/

/-- **A relationship is read as its parts, unless a letter is lost to the name.** -/
theorem ofText_spaced_eq (hleft : IsName left) (hright : IsName right)
    (hconnector : connector.Recognized) (hgap : IsGap gap) (hgap₂ : IsGap gap₂)
    (hgap₃ : IsGap gap₃) (hlabel : LabelPart tail label) :
    ofText (spaced left gap connector gap₂ right gap₃ tail) =
      if gap = [] ∧ connector.BeginsLikeName then .unrecognized
      else .relationship left connector right label := by
  split
  · rename_i hlost
    obtain ⟨rfl, hletter⟩ := hlost
    obtain ⟨d, rest, hd, hsplit⟩ := letter_append left hconnector hletter
      (gap₂ ++ (right.toList ++ (gap₃ ++ tail)))
    -- the name goes on with the letter, and a bar behind it begins no connector
    have hlonger : IsName (left ++ "o") :=
      IsName.append hleft (List.all_eq_true.mp (by decide))
    unfold spaced
    rw [List.nil_append, hsplit]
    exact ofText_bar hlonger hd rest
  · rename_i hkept
    obtain ⟨gap₃', tail', hgap₃', hlabel', htrim⟩ :=
      trim_spaced gap connector gap₂ hleft hright hgap₃ hlabel
    -- a gap or a connector without a letter ends the name where it should
    have hclear : gap = [] → Stops isNameChar connector.text.toList :=
      fun hnil => (stops_connector_iff hconnector).mpr fun hletter => hkept ⟨hnil, hletter⟩
    rw [← ofText_trim, htrim]
    refine ofText_of_form (by rw [← htrim, trim_trim]) (.relationship ?_)
    exact ⟨gap, gap₂, gap₃', tail', rfl, hleft, hgap, hconnector, hclear, hgap₂, hright, hgap₃',
      hlabel'⟩

/--
**Gaps around a connector make no difference, unless a letter is lost to the name.** A relationship
is read as its two names, its connector and its label whatever gaps stand between them, provided
that a connector which begins with a letter has a gap in front of it. Without that gap the line is
not known. So two lines with the same parts and other gaps are read alike if neither loses a letter.
-/
theorem ofText_spaced (hleft : IsName left) (hright : IsName right)
    (hconnector : connector.Recognized) (hgap : IsGap gap) (hgap₂ : IsGap gap₂)
    (hgap₃ : IsGap gap₃) (hlabel : LabelPart tail label) :
    (ofText (spaced left gap connector gap₂ right gap₃ tail) =
        .relationship left connector right label ↔ gap ≠ [] ∨ ¬ connector.BeginsLikeName) ∧
      (gap = [] → connector.BeginsLikeName →
        ofText (spaced left gap connector gap₂ right gap₃ tail) = .unrecognized) ∧
      ∀ other other₂ other₃, IsGap other → IsGap other₂ → IsGap other₃ →
        (ofText (spaced left other connector other₂ right other₃ tail) =
            ofText (spaced left gap connector gap₂ right gap₃ tail) ↔
          (connector.BeginsLikeName → (other = [] ↔ gap = []))) := by
  -- one equation for all gaps, so two lines are compared by their conditions alone
  have hread : ∀ {gap gap₂ gap₃ : List Char}, IsGap gap → IsGap gap₂ → IsGap gap₃ →
      ofText (spaced left gap connector gap₂ right gap₃ tail) =
        if gap = [] ∧ connector.BeginsLikeName then .unrecognized
        else .relationship left connector right label :=
    fun hgap hgap₂ hgap₃ => ofText_spaced_eq hleft hright hconnector hgap hgap₂ hgap₃ hlabel
  rw [hread hgap hgap₂ hgap₃]
  refine ⟨?_, fun hnil hletter => if_pos ⟨hnil, hletter⟩, fun other other₂ other₃ h h₂ h₃ => ?_⟩
  · split
    · rename_i hlost
      exact iff_of_false nofun fun h => not_and_or.mpr h hlost
    · rename_i hkept
      exact iff_of_true rfl (not_and_or.mp hkept)
  · rw [hread h h₂ h₃]
    by_cases hletter : connector.BeginsLikeName
    · by_cases hnil : other = [] <;> by_cases hnil' : gap = [] <;> simp [hletter, hnil, hnil']
    · simp [hletter]

/-- Behind a tab the letter is the connector's, and nothing need stand on its other side. -/
theorem ofText_spaced_tab :
    IsName "Zoo" ∧ IsName "Ape" ∧ Connector.Recognized ⟨"o|", "--", "o\x7b"⟩ ∧ IsGap ['\t'] ∧
      IsGap [] ∧ IsGap [' ', ' '] ∧ LabelPart ": has ".toList (some "has") ∧
      ofText (spaced "Zoo" ['\t'] ⟨"o|", "--", "o\x7b"⟩ [] "Ape" [' ', ' '] ": has ".toList) =
        .relationship "Zoo" ⟨"o|", "--", "o\x7b"⟩ "Ape" (some "has") := by
  have hzoo : IsName "Zoo" := by decide
  have hape : IsName "Ape" := by decide
  have hconnector : Connector.Recognized ⟨"o|", "--", "o\x7b"⟩ :=
    ⟨by decide, by decide, by decide⟩
  have htab : IsGap ['\t'] := List.all_eq_true.mp (by decide)
  have hnone : IsGap [] := fun _ => nofun
  have hspaces : IsGap [' ', ' '] := List.all_eq_true.mp (by decide)
  have hlabel : LabelPart ": has ".toList (some "has") := label?_eq_some_iff.mp (by decide +kernel)
  obtain ⟨hread, _⟩ := ofText_spaced hzoo hape hconnector htab hnone hspaces hlabel
  exact ⟨hzoo, hape, hconnector, htab, hnone, hspaces, hlabel,
    hread.mpr (Or.inl (List.cons_ne_nil _ _))⟩

/-- Without a gap in front of it the connector loses its letter, and the relationship is lost. -/
theorem not_ofText_spaced_letter :
    IsName "A" ∧ IsName "B" ∧ Connector.Recognized ⟨"o|", "--", "||"⟩ ∧ LabelPart [] none ∧
      ofText (spaced "A" [' '] ⟨"o|", "--", "||"⟩ [] "B" [] []) =
        .relationship "A" ⟨"o|", "--", "||"⟩ "B" none ∧
      ofText (spaced "A" [] ⟨"o|", "--", "||"⟩ [] "B" [] []) = .unrecognized := by
  refine ⟨by decide, by decide, ⟨by decide, by decide, by decide⟩, .absent, ?_, ?_⟩
  · decide +kernel
  · decide +kernel

end Line

end Crowfoot
