import Crowfoot.Proofs.WrittenLine
import Mathlib.Data.List.TakeWhile

/-!
# The grammar of a line

Each form of a line is written down as the parts that the line has to consist of, with nothing said
about reading. The readers take the longest run and the first word that fits and never go back, and
still they accept just these lines: a part is always followed by something that it cannot hold.

No line has two forms, so the readers can be tried in any order. The opening of a block has neither
the colon of an attribute nor the dashes or dots of a connector in it. A relationship has a
connector behind its first name where an attribute has a colon. Quotes are removed for attributes
only, but that changes nothing up to there.
-/

namespace Crowfoot

open Text

namespace Line

/-! ## The forms -/

/-- Spaces and tabs, perhaps none. -/
def IsGap (cs : List Char) : Prop := ∀ c ∈ cs, isGap c = true

/-- `entity`, a gap, a name, and perhaps a brace after another gap. -/
def IsOpening (text : List Char) (name : String) : Prop :=
  ∃ gap gap₂ brace, text = "entity".toList ++ (gap ++ (name.toList ++ (gap₂ ++ brace))) ∧
    IsGap gap ∧ gap ≠ [] ∧ IsName name ∧ IsGap gap₂ ∧ (brace = [] ∨ brace = ['\x7b'])

/-- What may follow the two names of a relationship: nothing, or a colon and any text. -/
inductive LabelPart : List Char → Option String → Prop
  | absent : LabelPart [] none
  | empty {text : List Char} (h : trim text = []) : LabelPart (':' :: text) none
  | given {text : List Char} (h : trim text ≠ []) :
      LabelPart (':' :: text) (some (String.ofList (trim text)))

/--
A name, a connector, a name and perhaps a label, with gaps between them. A connector that follows
the first name without a gap does not begin with a letter.
-/
def IsRelationship (text : List Char) (left : String) (connector : Connector) (right : String)
    (label : Option String) : Prop :=
  ∃ gap gap₂ gap₃ tail, text = left.toList ++ (gap ++ (connector.text.toList ++ (gap₂ ++
      (right.toList ++ (gap₃ ++ tail))))) ∧
    IsName left ∧ IsGap gap ∧ connector.Recognized ∧
    (gap = [] → Stops isNameChar connector.text.toList) ∧
    IsGap gap₂ ∧ IsName right ∧ IsGap gap₃ ∧ LabelPart tail label

/--
What may follow the type of an attribute: nothing, or a mark between `<<` and `>>` with a gap behind
it. No `>>` begins before the one that closes the mark.
-/
inductive MarkPart : List Char → Option Stereotype → Prop
  | absent : MarkPart [] none
  | given {inner gap : List Char} (hfirst : ¬ ['>', '>'] <:+: inner ++ ['>']) (hgap : IsGap gap) :
      MarkPart ('<' :: '<' :: (inner ++ '>' :: '>' :: gap)) (some (.ofText (String.ofList inner)))

/-- Perhaps a star, a name, a colon, a type and perhaps a mark, with gaps between them. -/
def IsAttribute (text : List Char) (a : Attribute) : Prop :=
  ∃ gap gap₂ gap₃ gap₄ token mark, text = (if a.mandatory then ['*'] else []) ++ (gap ++
      (a.name.toList ++ (gap₂ ++ ':' :: (gap₃ ++ (token.toList ++ (gap₄ ++ mark)))))) ∧
    IsGap gap ∧ IsName a.name ∧ IsGap gap₂ ∧ IsGap gap₃ ∧
    (token ≠ "" ∧ ∀ c ∈ token.toList, isBlank c = false ∧ c ≠ '<') ∧ a.type = .ofToken token ∧
    IsGap gap₄ ∧ MarkPart mark a.stereotype

/-- The text without quotes, and without the blanks that are left at its ends. -/
def unquoted (text : List Char) : List Char := trim (text.filter (· ≠ quote))

/-- The form that a text without blanks at its ends has, for each reading of it. -/
inductive Form (text : List Char) : Line → Prop
  /-- There is nothing, or it is a comment. -/
  | blank (h : text = [] ∨ text.head? = some quote) : Form text .blank
  | entityClose (h : text = ['\x7d']) : Form text .entityClose
  | separator (h : text = ['-', '-']) : Form text .separator
  | entityOpen {name : String} (h : IsOpening text name) : Form text (.entityOpen name)
  | relationship {left : String} {connector : Connector} {right : String} {label : Option String}
      (h : IsRelationship text left connector right label) :
      Form text (.relationship left connector right label)
  /-- Quotes may stand anywhere but in front. -/
  | attr {a : Attribute} (hstart : text.head? ≠ some quote) (h : IsAttribute (unquoted text) a) :
      Form text (.attr a)

/-! ## Parts of a line -/

variable {p : Char → Bool} {cs rest : List Char} {word name : String}

theorem stops_dropWhile (p : Char → Bool) (cs : List Char) : Stops p (cs.dropWhile p) := by
  intro c hc
  have hhead := List.head?_dropWhile_not p cs
  rw [hc] at hhead
  exact hhead

/-- **A run is a word that the text does not go on like.** -/
theorem run?_eq_some_iff :
    run? p cs = some (word, rest) ↔
      cs = word.toList ++ rest ∧ word ≠ "" ∧ (∀ c ∈ word.toList, p c = true) ∧ Stops p rest := by
  constructor
  · intro h
    unfold run? at h
    split at h
    · exact absurd h nofun
    · rename_i hne
      obtain ⟨rfl, rfl⟩ := Prod.mk.inj (Option.some.inj h)
      rw [String.toList_ofList]
      -- the word is as long as it can be, so what is left does not go on like it
      refine ⟨List.takeWhile_append_dropWhile.symm, fun he => ?_, ?_, stops_dropWhile p cs⟩
      · have hnil := congrArg String.toList he
        rw [String.toList_ofList] at hnil
        exact hne (List.isEmpty_iff.mpr hnil)
      · exact List.all_eq_true.mp List.all_takeWhile
  · intro h
    obtain ⟨rfl, hne, hall, hstop⟩ := h
    exact run?_append hne hall hstop

theorem name?_eq_some_iff :
    name? cs = some (name, rest) ↔
      cs = name.toList ++ rest ∧ IsName name ∧ Stops isNameChar rest := by
  unfold name? IsName
  rw [run?_eq_some_iff, and_assoc]

/-- There is a gap, perhaps an empty one, and then the text that is left when it is skipped. -/
theorem exists_gap (cs : List Char) :
    ∃ gap, IsGap gap ∧ cs = gap ++ skipGap cs ∧ Stops isGap (skipGap cs) :=
  ⟨cs.takeWhile isGap, List.all_eq_true.mp List.all_takeWhile,
    List.takeWhile_append_dropWhile.symm, stops_dropWhile isGap cs⟩

theorem skipGap_append {gap : List Char} (hgap : IsGap gap) (hstop : Stops isGap rest) :
    skipGap (gap ++ rest) = rest := by
  unfold skipGap
  rw [List.dropWhile_append_of_pos hgap]
  exact hstop.dropWhile_eq

theorem skipGap_eq_nil_iff : skipGap cs = [] ↔ IsGap cs := List.dropWhile_eq_nil_iff

/-- The first word that fits is one that the text begins with. -/
theorem oneOf?_eq_some {words : List String} (h : oneOf? words cs = some (word, rest)) :
    word ∈ words ∧ cs = word.toList ++ rest := by
  obtain ⟨w, hw, hafter⟩ := List.exists_of_findSome?_eq_some h
  obtain ⟨found, hfound, he⟩ := Option.map_eq_some_iff.mp hafter
  obtain ⟨rfl, rfl⟩ := Prod.mk.inj he
  exact ⟨hw, (after?_eq_some_iff.mp hfound).symm⟩

theorem connector?_eq_some_iff {c : Connector} :
    connector? cs = some (c, rest) ↔ cs = c.text.toList ++ rest ∧ c.Recognized := by
  constructor
  · intro h
    obtain ⟨⟨left, rest₁⟩, hleft, h⟩ := Option.bind_eq_some_iff.mp h
    obtain ⟨⟨body, rest₂⟩, hbody, h⟩ := Option.bind_eq_some_iff.mp h
    obtain ⟨⟨right, rest₃⟩, hright, h⟩ := Option.bind_eq_some_iff.mp h
    obtain ⟨rfl, rfl⟩ := Prod.mk.inj (Option.some.inj h)
    obtain ⟨hleftEnd, rfl⟩ := oneOf?_eq_some hleft
    obtain ⟨hline, rfl⟩ := oneOf?_eq_some hbody
    obtain ⟨hrightEnd, rfl⟩ := oneOf?_eq_some hright
    exact ⟨by simp [Connector.text], hleftEnd, hline, hrightEnd⟩
  · intro h
    obtain ⟨rfl, hc⟩ := h
    exact connector?_append hc rest

theorem label?_eq_some_iff {label : Option String} :
    label? cs = some label ↔ LabelPart cs label := by
  constructor
  · intro h
    unfold label? at h
    split at h
    · rw [← Option.some.inj h]
      exact .absent
    · -- behind a colon, a label of nothing is none
      rename_i text
      rw [← Option.some.inj h]
      split
      · rename_i hempty
        exact .empty (List.isEmpty_iff.mp hempty)
      · rename_i hne
        exact .given fun hnil => hne (List.isEmpty_iff.mpr hnil)
    · exact absurd h nofun
  · intro h
    cases h with
    | absent => rfl
    | empty h => simp [label?, h]
    | given h => simp [label?, h]

/-- **The text up to the first `>>` is the one in which no `>>` begins.** -/
theorem untilClose?_eq_some_iff {inner outer : List Char} :
    untilClose? cs = some (inner, outer) ↔
      cs = inner ++ '>' :: '>' :: outer ∧ ¬ ['>', '>'] <:+: inner ++ ['>'] := by
  constructor
  · intro h
    fun_induction untilClose? cs generalizing inner with
    | case1 => exact absurd h nofun
    | case2 rest =>
      obtain ⟨rfl, rfl⟩ := Prod.mk.inj (Option.some.inj h)
      exact ⟨rfl, by decide⟩
    | case3 c rest hopen ih =>
      obtain ⟨⟨inner', outer'⟩, hrest, he⟩ := Option.map_eq_some_iff.mp h
      obtain ⟨rfl, rfl⟩ := Prod.mk.inj he
      obtain ⟨rfl, hnone⟩ := ih hrest
      refine ⟨rfl, fun hin => ?_⟩
      rcases List.infix_cons_iff.mp hin with hfront | hin
      · -- a close that begins with the first character
        obtain ⟨rfl, hnext⟩ := List.cons_prefix_cons.mp hfront
        cases inner' with
        | nil => exact hopen _ rfl rfl
        | cons d more =>
          obtain ⟨rfl, _⟩ := List.cons_prefix_cons.mp hnext
          exact hopen _ rfl rfl
      · exact hnone hin
  · intro h
    obtain ⟨rfl, hnone⟩ := h
    have hparts := not_or.mp (List.infix_concat_iff.not.mp hnone)
    refine untilClose?_append hparts.2 (fun hlast => hparts.1 ?_) outer
    -- a close that ends with the last character
    obtain ⟨front, rfl⟩ := List.getLast?_eq_some_iff.mp hlast
    exact ⟨front, by simp⟩

theorem stereotype?_eq_some_iff {mark : Option Stereotype} :
    stereotype? cs = some mark ↔ MarkPart cs mark := by
  constructor
  · intro h
    unfold stereotype? at h
    split at h
    · rw [← Option.some.inj h]
      exact .absent
    · obtain ⟨⟨inner, outer⟩, hclose, hrest⟩ := Option.bind_eq_some_iff.mp h
      obtain ⟨_, hguard, hmark⟩ := Option.bind_eq_some_iff.mp hrest
      -- the first closing is taken, so none stands in the mark itself
      obtain ⟨rfl, hfirst⟩ := untilClose?_eq_some_iff.mp hclose
      have hgap := skipGap_eq_nil_iff.mp (List.isEmpty_iff.mp ((Option.guard_eq_some' _).mp hguard))
      rw [← Option.some.inj hmark]
      exact .given hfirst hgap
    · exact absurd h nofun
  · intro h
    cases h with
    | absent => rfl
    | @given inner gap hfirst hgap =>
      have hclose : untilClose? (inner ++ '>' :: '>' :: gap) = some (inner, gap) :=
        untilClose?_eq_some_iff.mpr ⟨rfl, hfirst⟩
      simp [stereotype?, hclose, skipGap_eq_nil_iff.mpr hgap]

theorem star_eq_iff {mandatory : Bool} :
    star cs = (mandatory, rest) ↔
      cs = (if mandatory then ['*'] else []) ++ rest ∧
        (mandatory = false → Stops (· = '*') cs) := by
  constructor
  · intro h
    unfold star at h
    split at h
    · obtain ⟨rfl, rfl⟩ := Prod.mk.inj h
      exact ⟨rfl, nofun⟩
    · rename_i hnot
      obtain ⟨rfl, rfl⟩ := Prod.mk.inj h
      refine ⟨rfl, fun _ c hc => decide_eq_false fun he => ?_⟩
      obtain ⟨tail, rfl⟩ := List.head?_eq_some_iff.mp hc
      exact hnot tail (by rw [he])
  · intro h
    obtain ⟨rfl, hstop⟩ := h
    cases mandatory with
    | true => rfl
    | false =>
      -- without a star in front nothing is cut off
      refine star.eq_2 _ fun tail he => ?_
      have hstop := hstop rfl
      rw [he] at hstop
      exact absurd (Stops.cons_iff.mp hstop) (by decide)

/-! ## Whole lines -/

/-- A run stops at a gap, and without one at what is there instead. -/
theorem IsGap.stops_append {gap : List Char} (h : IsGap gap)
    (hp : ∀ c, isGap c = true → p c = false) (hrest : gap = [] → Stops p rest) :
    Stops p (gap ++ rest) := by
  cases gap with
  | nil => exact hrest rfl
  | cons c gap => exact Stops.cons_iff.mpr (hp c (h c (List.mem_cons_self ..)))

theorem not_isNameChar_of_isGap {c : Char} (h : isGap c = true) : isNameChar c = false :=
  Bool.eq_false_iff.mpr fun hname => ne_true_of_eq_false (not_isGap_of_isNameChar hname) h

theorem not_isTypeChar_of_isGap {c : Char} (h : isGap c = true) : isTypeChar c = false :=
  Bool.eq_false_iff.mpr fun htype =>
    absurd (isBlank_of_isGap h) (ne_true_of_eq_false (isTypeChar_iff.mp htype).1)

theorem stops_name {name : String} (h : IsName name) (hp : ∀ c, isNameChar c = true → p c = false)
    (rest : List Char) : Stops p (name.toList ++ rest) := by
  obtain ⟨c, cs, hcs, hc⟩ := h.exists_cons
  rw [hcs]
  exact Stops.cons_iff.mpr (hp c hc)

theorem stops_isGap_name {name : String} (h : IsName name) (rest : List Char) :
    Stops isGap (name.toList ++ rest) := stops_name h (fun _ => not_isGap_of_isNameChar) rest

/-- A gap that does not begin like one is empty. -/
theorem IsGap.eq_nil {gap : List Char} (h : IsGap gap) (hstop : Stops isGap gap) : gap = [] := by
  rw [← hstop.dropWhile_eq]
  exact skipGap_eq_nil_iff.mpr h

/-- A gap at the end of a trimmed text is empty. -/
theorem IsGap.eq_nil_of_trimmed {front gap : List Char} (h : IsGap gap)
    (hend : Stops isBlank (front ++ gap).reverse) : gap = [] := by
  rw [List.reverse_append] at hend
  refine List.reverse_eq_nil_iff.mp (IsGap.eq_nil (fun c hc => h c (List.mem_reverse.mp hc)) ?_)
  intro c hc
  have hblank := hend c (by rw [List.head?_append, hc, Option.some_or])
  exact Bool.eq_false_iff.mpr fun hgap => ne_true_of_eq_false hblank (isBlank_of_isGap hgap)

/-- What may follow the name in the opening of a block. -/
theorem brace_iff {front : List Char} (hstop : Stops isGap cs)
    (hend : Stops isBlank (front ++ cs).reverse) :
    (skipGap ((after? "\x7b" cs).getD cs)).isEmpty = true ↔ cs = [] ∨ cs = ['\x7b'] := by
  rw [List.isEmpty_iff, skipGap_eq_nil_iff]
  cases hbrace : after? "\x7b" cs with
  | none =>
    constructor
    · intro h
      exact Or.inl (h.eq_nil hstop)
    · rintro (rfl | rfl)
      · exact nofun
      · exact absurd hbrace (by decide)
  | some tail =>
    obtain rfl := after?_eq_some_iff.mp hbrace
    -- the line is trimmed, so behind the brace a gap can only be nothing
    have htail : IsGap tail ↔ tail = [] := by
      constructor
      · intro h
        rw [← List.append_assoc] at hend
        exact h.eq_nil_of_trimmed hend
      · rintro rfl
        exact nofun
    rw [Option.getD_some, htail]
    simp

/-- **A line is read as the opening of a block if it has that form.** -/
theorem entityOpen?_eq_some_iff (hend : Stops isBlank cs.reverse) :
    entityOpen? cs = some name ↔ IsOpening cs name := by
  constructor
  · intro h
    obtain ⟨rest₁, hword, h₁⟩ := Option.bind_eq_some_iff.mp h
    obtain ⟨_, hguard, h₂⟩ := Option.bind_eq_some_iff.mp h₁
    obtain ⟨⟨found, rest₂⟩, hname, h₃⟩ := Option.bind_eq_some_iff.mp h₂
    obtain ⟨_, hguard', h₄⟩ := Option.bind_eq_some_iff.mp h₃
    obtain rfl := Option.some.inj h₄
    obtain ⟨hfound, hisname, _⟩ := name?_eq_some_iff.mp hname
    obtain ⟨gap, hgap, hrest₁, hstop₁⟩ := exists_gap rest₁
    obtain ⟨gap₂, hgap₂, hrest₂, hstop₂⟩ := exists_gap rest₂
    have hcs : cs = "entity".toList ++ (gap ++ (found.toList ++ (gap₂ ++ skipGap rest₂))) := by
      rw [← hrest₂, ← hfound, ← hrest₁]
      exact (after?_eq_some_iff.mp hword).symm
    refine ⟨gap, gap₂, skipGap rest₂, hcs, hgap, ?_, hisname, hgap₂, ?_⟩
    · rintro rfl
      -- the text behind the word begins with a gap
      rw [List.nil_append] at hrest₁
      rw [← hrest₁] at hstop₁
      obtain ⟨c, hc, hcgap⟩ := (Option.any_eq_true ..).mp ((Option.guard_eq_some' _).mp hguard)
      exact absurd hcgap (ne_true_of_eq_false (hstop₁ c hc))
    · rw [hcs, ← List.append_assoc, ← List.append_assoc, ← List.append_assoc] at hend
      exact (brace_iff hstop₂ hend).mp ((Option.guard_eq_some' _).mp hguard')
  · intro h
    obtain ⟨gap, gap₂, brace, rfl, hgap, hne, hname, hgap₂, hbrace⟩ := h
    have hstop : Stops isGap brace := by
      rcases hbrace with rfl | rfl
      · exact Stops.nil _
      · exact Stops.cons_iff.mpr (by decide)
    have hbehind : Stops isNameChar (gap₂ ++ brace) := by
      refine hgap₂.stops_append (fun c => not_isNameChar_of_isGap) fun _ => ?_
      rcases hbrace with rfl | rfl
      · exact Stops.nil _
      · exact Stops.cons_iff.mpr (by decide)
    have hhead : (gap ++ (name.toList ++ (gap₂ ++ brace))).head?.any isGap = true := by
      obtain ⟨c, gap, rfl⟩ := List.exists_cons_of_ne_nil hne
      exact hgap c (List.mem_cons_self ..)
    rw [← List.append_assoc, ← List.append_assoc, ← List.append_assoc] at hend
    have hlast := (brace_iff hstop hend).mpr hbrace
    unfold entityOpen?
    simp only [after?_append, Option.bind_eq_bind, Option.bind_some, hhead, guard_true,
      skipGap_append hgap (stops_isGap_name hname _), name?_append hname hbehind,
      skipGap_append hgap₂ hstop, hlast]
    rfl

theorem stops_connector_append {connector : Connector} (h : connector.Recognized)
    (rest : List Char) :
    Stops p (connector.text.toList ++ rest) ↔ Stops p connector.text.toList := by
  rcases connector_start h with ⟨d, cs, htext, _⟩ | ⟨cs, htext⟩
  · rw [htext, List.cons_append, Stops.cons_iff, Stops.cons_iff]
  · rw [htext, List.cons_append, Stops.cons_iff, Stops.cons_iff]

theorem stops_isGap_connector {connector : Connector} (h : connector.Recognized)
    (rest : List Char) : Stops isGap (connector.text.toList ++ rest) :=
  Stops.iff_dropWhile_eq.mpr (skipGap_connector h rest)

theorem LabelPart.stops {tail : List Char} {label : Option String} (h : LabelPart tail label)
    (hp : p ':' = false) : Stops p tail := by
  cases h with
  | absent => exact Stops.nil p
  | empty _ => exact Stops.cons_iff.mpr hp
  | given _ => exact Stops.cons_iff.mpr hp

theorem MarkPart.stops {mark : List Char} {stereotype : Option Stereotype}
    (h : MarkPart mark stereotype) (hp : p '<' = false) : Stops p mark := by
  cases h with
  | absent => exact Stops.nil p
  | given _ _ => exact Stops.cons_iff.mpr hp

/-- **A line is read as a relationship if it has that form.** -/
theorem relationship?_eq_some_iff {left right : String} {connector : Connector}
    {label : Option String} :
    relationship? cs = some (.relationship left connector right label) ↔
      IsRelationship cs left connector right label := by
  constructor
  · intro h
    obtain ⟨⟨left', rest₁⟩, hleft, h₁⟩ := Option.bind_eq_some_iff.mp h
    obtain ⟨⟨connector', rest₂⟩, hconnector, h₂⟩ := Option.bind_eq_some_iff.mp h₁
    obtain ⟨⟨right', rest₃⟩, hright, h₃⟩ := Option.bind_eq_some_iff.mp h₂
    obtain ⟨label', hlabel, h₄⟩ := Option.bind_eq_some_iff.mp h₃
    obtain ⟨rfl, rfl, rfl, rfl⟩ := Line.relationship.inj (Option.some.inj h₄)
    obtain ⟨hcs, hisleft, hstop₁⟩ := name?_eq_some_iff.mp hleft
    obtain ⟨hconn, hrecognized⟩ := connector?_eq_some_iff.mp hconnector
    obtain ⟨hskip, hisright, _⟩ := name?_eq_some_iff.mp hright
    -- the gaps are what was skipped between the parts
    obtain ⟨gap, hgap, hrest₁, _⟩ := exists_gap rest₁
    obtain ⟨gap₂, hgap₂, hrest₂, _⟩ := exists_gap rest₂
    obtain ⟨gap₃, hgap₃, hrest₃, _⟩ := exists_gap rest₃
    refine ⟨gap, gap₂, gap₃, skipGap rest₃, ?_, hisleft, hgap, hrecognized, ?_, hgap₂, hisright,
      hgap₃, label?_eq_some_iff.mp hlabel⟩
    · rw [← hrest₃, ← hskip, ← hrest₂, ← hconn, ← hrest₁]
      exact hcs
    · -- glued to the name, the connector ends the name only if it does not begin like one
      rintro rfl
      rw [hrest₁, hconn, List.nil_append] at hstop₁
      exact (stops_connector_append hrecognized _).mp hstop₁
  · intro h
    obtain ⟨gap, gap₂, gap₃, tail, rfl, hleft, hgap, hrecognized, hclear, hgap₂, hright, hgap₃,
      hlabel⟩ := h
    -- either a gap ends the name, or the connector does
    have hstop : Stops isNameChar (gap ++ (connector.text.toList ++ (gap₂ ++ (right.toList ++
        (gap₃ ++ tail))))) :=
      hgap.stops_append (fun c => not_isNameChar_of_isGap) fun hnil =>
        (stops_connector_append hrecognized _).mpr (hclear hnil)
    have hstop' : Stops isNameChar (gap₃ ++ tail) :=
      hgap₃.stops_append (fun c => not_isNameChar_of_isGap) fun _ => hlabel.stops (by decide)
    unfold relationship?
    simp only [name?_append hleft hstop, Option.bind_eq_bind, Option.bind_some,
      skipGap_append hgap (stops_isGap_connector hrecognized _), connector?_append hrecognized,
      skipGap_append hgap₂ (stops_isGap_name hright _), name?_append hright hstop',
      skipGap_append hgap₃ (hlabel.stops (by decide)), label?_eq_some_iff.mpr hlabel]
    rfl

theorem exists_of_relationship? {line : Line} (h : relationship? cs = some line) :
    ∃ left connector right label, line = .relationship left connector right label := by
  obtain ⟨⟨left, _⟩, _, h⟩ := Option.bind_eq_some_iff.mp h
  obtain ⟨⟨connector, _⟩, _, h⟩ := Option.bind_eq_some_iff.mp h
  obtain ⟨⟨right, _⟩, _, h⟩ := Option.bind_eq_some_iff.mp h
  obtain ⟨label, _, h⟩ := Option.bind_eq_some_iff.mp h
  exact ⟨left, connector, right, label, (Option.some.inj h).symm⟩

/-- **An attribute is read from a text that has that form.** -/
theorem attribute?_eq_some_iff {a : Attribute} : attribute? cs = some a ↔ IsAttribute cs a := by
  constructor
  · intro h
    obtain ⟨mandatory, rest, hread⟩ : ∃ mandatory rest, star cs = (mandatory, rest) := ⟨_, _, rfl⟩
    unfold attribute? at h
    rw [hread] at h
    obtain ⟨⟨name, rest₁⟩, hname, h₁⟩ := Option.bind_eq_some_iff.mp h
    obtain ⟨rest₂, hcolon, h₂⟩ := Option.bind_eq_some_iff.mp h₁
    obtain ⟨⟨token, rest₃⟩, htoken, h₃⟩ := Option.bind_eq_some_iff.mp h₂
    obtain ⟨stereotype, hmark, h₄⟩ := Option.bind_eq_some_iff.mp h₃
    obtain rfl := Option.some.inj h₄
    obtain ⟨hskip, hisname, hstop₁⟩ := name?_eq_some_iff.mp hname
    obtain ⟨hskip', hne, htype, _⟩ := run?_eq_some_iff.mp htoken
    obtain ⟨hstar, _⟩ := star_eq_iff.mp hread
    obtain ⟨gap, hgap, hrest, _⟩ := exists_gap rest
    obtain ⟨gap₂, hgap₂, hrest₁, _⟩ := exists_gap rest₁
    obtain ⟨gap₃, hgap₃, hrest₂, _⟩ := exists_gap rest₂
    obtain ⟨gap₄, hgap₄, hrest₃, _⟩ := exists_gap rest₃
    refine ⟨gap, gap₂, gap₃, gap₄, token, skipGap rest₃, ?_, hgap, hisname, hgap₂, hgap₃,
      ⟨hne, fun c hc => isTypeChar_iff.mp (htype c hc)⟩, rfl, hgap₄,
      stereotype?_eq_some_iff.mp hmark⟩
    -- the text is put together from what was read and what was skipped
    have hcolon' : skipGap rest₁ = ':' :: rest₂ := (after?_eq_some_iff.mp hcolon).symm
    rw [← hrest₃, ← hskip', ← hrest₂, ← hcolon', ← hrest₁, ← hskip, ← hrest]
    exact hstar
  · intro h
    obtain ⟨gap, gap₂, gap₃, gap₄, token, mark, rfl, hgap, hname, hgap₂, hgap₃, ⟨hne, hall⟩,
      htype, hgap₄, hmark⟩ := h
    -- each reader takes its part, as what follows does not go on like it
    have hstop : Stops isNameChar (gap₂ ++ ':' :: (gap₃ ++ (token.toList ++ (gap₄ ++ mark)))) :=
      hgap₂.stops_append (fun c => not_isNameChar_of_isGap) fun _ => Stops.cons_iff.mpr (by decide)
    have hstop' : Stops isTypeChar (gap₄ ++ mark) :=
      hgap₄.stops_append (fun c => not_isTypeChar_of_isGap) fun _ => hmark.stops (by decide)
    have hall' : ∀ c ∈ token.toList, isTypeChar c = true :=
      fun c hc => isTypeChar_iff.mpr (hall c hc)
    have htoken : Stops isGap (token.toList ++ (gap₄ ++ mark)) := by
      obtain ⟨c, cs, hcs⟩ := exists_cons_of_ne_empty hne
      rw [hcs] at hall' ⊢
      refine Stops.cons_iff.mpr (Bool.eq_false_iff.mpr fun hc => ?_)
      exact ne_true_of_eq_false (not_isTypeChar_of_isGap hc) (hall' c (List.mem_cons_self ..))
    have hstar : star ((if a.mandatory then ['*'] else []) ++ (gap ++ (a.name.toList ++ (gap₂ ++
        ':' :: (gap₃ ++ (token.toList ++ (gap₄ ++ mark))))))) = (a.mandatory, gap ++
          (a.name.toList ++ (gap₂ ++ ':' :: (gap₃ ++ (token.toList ++ (gap₄ ++ mark)))))) := by
      refine star_eq_iff.mpr ⟨rfl, fun hm => ?_⟩
      rw [hm]
      -- without the mark, neither a gap nor a name begins with a star
      refine hgap.stops_append (fun c hc => decide_eq_false ?_) fun _ => ?_
      · rintro rfl
        exact absurd hc (by decide)
      · exact stops_name hname (fun c hc => decide_eq_false (ne_of_isNameChar hc (by decide))) _
    have hcolon : after? ":" (skipGap (gap₂ ++ ':' :: (gap₃ ++ (token.toList ++ (gap₄ ++
        mark))))) = some (gap₃ ++ (token.toList ++ (gap₄ ++ mark))) := by
      rw [skipGap_append hgap₂ (Stops.cons_iff.mpr (by decide))]
      exact after?_append ":" _
    unfold attribute?
    simp only [hstar, skipGap_append hgap (stops_isGap_name hname _), name?_append hname hstop,
      hcolon, skipGap_append hgap₃ htoken, run?_append hne hall' hstop',
      skipGap_append hgap₄ (hmark.stops (by decide)), stereotype?_eq_some_iff.mpr hmark,
      Option.bind_eq_bind, Option.bind_some, ← htype]
    rfl

/-! ## The forms are apart -/

variable {line : Line} {a : Attribute}

theorem IsOpening.chars (h : IsOpening cs name) {c : Char} (hc : c ∈ cs) :
    isNameChar c = true ∨ isGap c = true ∨ c = '\x7b' := by
  obtain ⟨gap, gap₂, brace, rfl, hgap, _, hname, hgap₂, hbrace⟩ := h
  have hword : "entity".toList.all isNameChar = true := by decide +kernel
  simp only [List.mem_append] at hc
  rcases hc with hc | hc | hc | hc | hc
  · exact Or.inl (List.all_eq_true.mp hword c hc)
  · exact Or.inr (Or.inl (hgap c hc))
  · exact Or.inl (hname.2 c hc)
  · exact Or.inr (Or.inl (hgap₂ c hc))
  · rcases hbrace with rfl | rfl
    · exact absurd hc (by simp)
    · exact Or.inr (Or.inr (List.mem_singleton.mp hc))

theorem IsOpening.start (h : IsOpening cs name) :
    ∃ c rest, cs = c :: rest ∧ isNameChar c = true := by
  obtain ⟨gap, gap₂, brace, rfl, _⟩ := h
  exact ⟨'e', _, rfl, by decide⟩

theorem IsRelationship.start {left right : String} {connector : Connector} {label : Option String}
    (h : IsRelationship cs left connector right label) :
    ∃ c rest, cs = c :: rest ∧ isNameChar c = true := by
  obtain ⟨gap, gap₂, gap₃, tail, rfl, hleft, _⟩ := h
  obtain ⟨c, rest, hcs, hc⟩ := hleft.exists_cons
  exact ⟨c, _, by rw [hcs]; rfl, hc⟩

/-- There is no dot and no dash in the opening of a block. -/
theorem not_isOpening_of_isRelationship {left right : String} {connector : Connector}
    {label : Option String} (h : IsRelationship cs left connector right label) :
    ¬ IsOpening cs name := by
  intro hopen
  obtain ⟨gap, gap₂, gap₃, tail, rfl, _, _, hrecognized, _⟩ := h
  -- the connector has a character that no opening has
  have hbody : ∃ c ∈ connector.body.toList,
      isNameChar c = false ∧ isGap c = false ∧ c ≠ '\x7b' := by
    rcases List.mem_pair.mp hrecognized.body with hbody | hbody <;> rw [hbody]
    · exact ⟨'-', by decide, by decide, by decide, by decide⟩
    · exact ⟨'.', by decide, by decide, by decide, by decide⟩
  obtain ⟨c, hc, hname, hgap, hbrace⟩ := hbody
  have hmem : c ∈ left.toList ++ (gap ++ (connector.text.toList ++ (gap₂ ++ (right.toList ++
      (gap₃ ++ tail))))) := by
    simp [Connector.text, hc]
  rcases hopen.chars hmem with h | h | h
  · exact ne_true_of_eq_false hname h
  · exact ne_true_of_eq_false hgap h
  · exact hbrace h

theorem IsAttribute.colon_mem (h : IsAttribute cs a) : ':' ∈ cs := by
  obtain ⟨gap, gap₂, gap₃, gap₄, token, mark, rfl, _⟩ := h
  simp

theorem mem_of_mem_trim {c : Char} (h : c ∈ trim cs) : c ∈ cs := by
  unfold trim at h
  have hin := (List.dropWhile_suffix isBlank).mem (List.mem_reverse.mp h)
  exact (List.dropWhile_suffix isBlank).mem (List.mem_reverse.mp hin)

theorem colon_mem_of_unquoted (h : IsAttribute (unquoted cs) a) : ':' ∈ cs :=
  (List.mem_filter.mp (mem_of_mem_trim h.colon_mem)).1

/-- There is no colon in the opening of a block. -/
theorem not_isOpening_of_isAttribute (h : IsAttribute (unquoted cs) a) : ¬ IsOpening cs name := by
  intro hopen
  have hcolon := hopen.chars (colon_mem_of_unquoted h)
  exact absurd hcolon (by decide)

/-- What stands between blanks and begins and ends without one is in front when it is trimmed. -/
theorem trim_append {front : List Char} (hne : front ≠ []) (hstart : Stops isBlank front)
    (hend : Stops isBlank front.reverse) (rest : List Char) :
    ∃ rest', trim (front ++ rest) = front ++ rest' := by
  have hstart' : Stops isBlank (front ++ rest) := by
    obtain ⟨c, front, rfl⟩ := List.exists_cons_of_ne_nil hne
    exact Stops.cons_iff.mpr (Stops.cons_iff.mp hstart)
  refine ⟨(rest.reverse.dropWhile isBlank).reverse, ?_⟩
  -- from behind, blanks are dropped up to the last character of the front
  have hback : (rest.reverse ++ front.reverse).dropWhile isBlank =
      rest.reverse.dropWhile isBlank ++ front.reverse := by
    rw [List.dropWhile_append, hend.dropWhile_eq]
    split
    · rename_i hnil
      rw [List.isEmpty_iff.mp hnil, List.nil_append]
    · rfl
  unfold trim
  rw [hstart'.dropWhile_eq, List.reverse_append, hback, List.reverse_append, List.reverse_reverse]

theorem unquoted_append {front : List Char} (hne : front ≠ []) (hstart : Stops isBlank front)
    (hend : Stops isBlank front.reverse) (hquote : ∀ c ∈ front, c ≠ quote) (rest : List Char) :
    ∃ rest', unquoted (front ++ rest) = front ++ rest' := by
  have hkeep : front.filter (· ≠ quote) = front :=
    List.filter_eq_self.mpr fun c hc => decide_eq_true (hquote c hc)
  unfold unquoted
  rw [List.filter_append, hkeep]
  exact trim_append hne hstart hend _

theorem connector_marks {connector : Connector} (h : connector.Recognized) :
    ∀ c ∈ connector.text.toList, isBlank c = false ∧ c ≠ quote ∧ c ≠ ':' := by
  have hall : (Connector.leftEnds ++ Connector.bodies ++ Connector.rightEnds).all
      (·.toList.all fun c => !isBlank c && c != quote && c != ':') = true := by
    decide +kernel
  have hwords : ∀ word ∈ Connector.leftEnds ++ Connector.bodies ++ Connector.rightEnds,
      ∀ c ∈ word.toList, isBlank c = false ∧ c ≠ quote ∧ c ≠ ':' := by
    intro word hword c hc
    simpa [and_assoc] using List.all_eq_true.mp (List.all_eq_true.mp hall word hword) c hc
  intro c hc
  simp only [Connector.text, String.toList_append, List.mem_append] at hc
  rcases hc with (hc | hc) | hc
  · exact hwords _ (by simp [h.left]) c hc
  · exact hwords _ (by simp [h.body]) c hc
  · exact hwords _ (by simp [h.right]) c hc

theorem connector_ne_nil {connector : Connector} (h : connector.Recognized) :
    connector.text.toList ≠ [] := by
  rcases connector_start h with ⟨d, cs, htext, _⟩ | ⟨cs, htext⟩ <;> simp [htext]

/-- An attribute has a colon behind its name. -/
theorem attribute?_of_ne_colon {name : String} {gap : List Char} (hname : IsName name)
    (hgap : IsGap gap) (hstop : Stops isNameChar (gap ++ rest)) (hrest : Stops isGap rest)
    (hcolon : rest.head? ≠ some ':') : attribute? (name.toList ++ (gap ++ rest)) = none := by
  have hstar : star (name.toList ++ (gap ++ rest)) = (false, name.toList ++ (gap ++ rest)) := by
    refine star_eq_iff.mpr ⟨rfl, fun _ => ?_⟩
    exact stops_name hname (fun c hc => decide_eq_false (ne_of_isNameChar hc (by decide))) _
  -- the reader gets as far as the colon, which is not there
  have hnone : after? ":" (skipGap (gap ++ rest)) = none := by
    rw [skipGap_append hgap hrest]
    cases hfound : after? ":" rest with
    | none => rfl
    | some found =>
      rw [← after?_eq_some_iff.mp hfound] at hcolon
      exact absurd rfl hcolon
  unfold attribute?
  simp only [hstar, skipGap_name hname, name?_append hname hstop, hnone, Option.bind_eq_bind,
    Option.bind_some, Option.bind_none]

/-- What stands behind the first name is a connector, so no colon is there. -/
theorem attribute?_connector {left : String} {gap : List Char} {connector : Connector}
    (hleft : IsName left) (hgap : IsGap gap) (h : connector.Recognized)
    (hclear : gap = [] → Stops isNameChar connector.text.toList) (rest : List Char) :
    attribute? (left.toList ++ (gap ++ (connector.text.toList ++ rest))) = none := by
  have hstop : Stops isNameChar (gap ++ (connector.text.toList ++ rest)) :=
    hgap.stops_append (fun c => not_isNameChar_of_isGap) fun hnil =>
      (stops_connector_append h _).mpr (hclear hnil)
  refine attribute?_of_ne_colon hleft hgap hstop (stops_isGap_connector h _) ?_
  obtain ⟨c, cs, hcs⟩ := List.exists_cons_of_ne_nil (connector_ne_nil h)
  have hmark := connector_marks h c (by rw [hcs]; exact List.mem_cons_self ..)
  rw [hcs]
  exact fun he => hmark.2.2 (Option.some.inj he)

/-- Where an attribute has its colon a relationship has its connector, with quotes or without. -/
theorem not_isAttribute_of_isRelationship {left right : String} {connector : Connector}
    {label : Option String} (h : IsRelationship cs left connector right label) :
    ¬ IsAttribute (unquoted cs) a := by
  obtain ⟨gap, gap₂, gap₃, tail, rfl, hleft, hgap, hrecognized, hclear, _⟩ := h
  have hmarks := connector_marks hrecognized
  -- the front, up to the end of the connector, has no quote in it
  have hquote : ∀ c ∈ left.toList ++ (gap ++ connector.text.toList), c ≠ quote := by
    intro c hc
    simp only [List.mem_append] at hc
    rcases hc with hc | hc | hc
    · exact (start_of_isNameChar (hleft.2 c hc)).2.1
    · rintro rfl
      exact absurd (hgap _ hc) (by decide)
    · exact (hmarks c hc).2.1
  have hend : Stops isBlank (left.toList ++ (gap ++ connector.text.toList)).reverse := by
    rw [← List.append_assoc]
    refine Stops.reverse_append (connector_ne_nil hrecognized) (Stops.of_forall fun c hc => ?_)
    exact (hmarks c (List.mem_reverse.mp hc)).1
  -- so it stays as it is when quotes are dropped, and behind the name there is no colon
  obtain ⟨rest, hrest⟩ := unquoted_append (by simp [connector_ne_nil hrecognized])
    (stops_name hleft (fun c => not_isBlank_of_isNameChar) _) hend hquote
    (gap₂ ++ (right.toList ++ (gap₃ ++ tail)))
  rw [List.append_assoc, List.append_assoc] at hrest
  rw [← attribute?_eq_some_iff, hrest, List.append_assoc, List.append_assoc,
    attribute?_connector hleft hgap hrecognized hclear]
  exact nofun

/-! ## The reading of a line -/

/-- What is trimmed has no blank at an end. -/
theorem trim_trim (cs : List Char) : trim (trim cs) = trim cs := by
  rw [trim_eq_self_iff]
  unfold trim
  constructor
  · obtain ⟨back, hback⟩ := List.dropWhile_suffix (l := (cs.dropWhile isBlank).reverse) isBlank
    intro c hc
    refine stops_dropWhile isBlank cs c ?_
    rw [← List.reverse_reverse (cs.dropWhile isBlank), ← hback, List.reverse_append,
      List.head?_append, hc, Option.some_or]
  · rw [List.reverse_reverse]
    exact stops_dropWhile isBlank _

theorem ofText_trim (raw : List Char) : ofText (trim raw) = ofText raw := by
  unfold ofText
  rw [trim_trim]

variable {text : List Char}

/-- A text with a colon in it is none of those that are compared as a whole. -/
theorem ne_of_colon_mem (h : ':' ∈ text) : text ≠ [] ∧ text ≠ ['\x7d'] ∧ text ≠ ['-', '-'] := by
  refine ⟨?_, ?_, ?_⟩ <;> rintro rfl <;> exact absurd h (by decide)

/-- **A line of a form is read as what the form says.** -/
theorem ofText_of_form (htrim : trim text = text) (h : Form text line) : ofText text = line := by
  have hend := (trim_eq_self_iff.mp htrim).2
  have hplain : (∃ c rest, text = c :: rest ∧ isNameChar c = true) → Plain text := by
    rintro ⟨c, rest, rfl, hc⟩
    exact plain_of_start (start_of_isNameChar hc) hend
  cases h with
  | blank h =>
    unfold ofText
    rw [htrim]
    rcases h with rfl | h
    · rfl
    · simp [h]
  | entityClose h =>
    rw [h]
    decide
  | separator h =>
    rw [h]
    decide
  | entityOpen h =>
    exact ofText_entityOpen (hplain h.start) ((entityOpen?_eq_some_iff hend).mpr h)
  | relationship h =>
    refine ofText_relationship (hplain h.start) ?_ (relationship?_eq_some_iff.mpr h)
    rw [Option.eq_none_iff_forall_ne_some]
    intro name hopen
    exact not_isOpening_of_isRelationship h ((entityOpen?_eq_some_iff hend).mp hopen)
  | @attr a hstart h =>
    -- the readers before are tried in vain, since there is a colon
    obtain ⟨hnil, hclose, hdashes⟩ := ne_of_colon_mem (colon_mem_of_unquoted h)
    have hopen : entityOpen? text = none := by
      rw [Option.eq_none_iff_forall_ne_some]
      intro name hopen
      exact not_isOpening_of_isAttribute h ((entityOpen?_eq_some_iff hend).mp hopen)
    have hrelationship : relationship? text = none := by
      rw [Option.eq_none_iff_forall_ne_some]
      intro line hline
      obtain ⟨left, connector, right, label, rfl⟩ := exists_of_relationship? hline
      exact not_isAttribute_of_isRelationship (relationship?_eq_some_iff.mp hline) h
    have hattribute : attribute? (trim (text.filter (· ≠ quote))) = some a :=
      attribute?_eq_some_iff.mpr h
    unfold ofText
    rw [htrim]
    simp only [hopen, hrelationship, hattribute]
    simp [hnil, hstart, hclose, hdashes]

/-! ### Any order of the readers -/

/-- What the line is read as by the reader of each form. -/
def readers : List (List Char → Option Line) := [
  fun text => if text.isEmpty || text.head? = some quote then some .blank else none,
  fun text => if text = ['\x7d'] then some .entityClose else none,
  fun text => if text = ['-', '-'] then some .separator else none,
  fun text => (entityOpen? text).map .entityOpen,
  relationship?,
  fun text =>
    if text.head? = some quote then none else (attribute? (unquoted text)).map .attr]

/-- **The reader of a form reads the lines of that form.** -/
theorem form_iff_exists_reader (htrim : trim text = text) :
    Form text line ↔ ∃ reader ∈ readers, reader text = some line := by
  have hend := (trim_eq_self_iff.mp htrim).2
  simp only [readers, List.mem_cons, List.not_mem_nil, or_false, exists_eq_or_imp, exists_eq_left]
  constructor
  · intro h
    cases h with
    | blank h => exact Or.inl (if_pos (by simpa using h))
    | entityClose h => simp [h]
    | separator h => simp [h]
    | entityOpen h => simp [(entityOpen?_eq_some_iff hend).mpr h]
    | relationship h => simp [relationship?_eq_some_iff.mpr h]
    | attr hstart h => simp [hstart, attribute?_eq_some_iff.mpr h]
  · -- each reader answers for its own form only
    rintro (h | h | h | h | h | h)
    · obtain ⟨hblank, he⟩ := Option.ite_none_right_eq_some.mp h
      rw [← Option.some.inj he]
      exact .blank (by simpa using hblank)
    · obtain ⟨hclose, he⟩ := Option.ite_none_right_eq_some.mp h
      rw [← Option.some.inj he]
      exact .entityClose hclose
    · obtain ⟨hdashes, he⟩ := Option.ite_none_right_eq_some.mp h
      rw [← Option.some.inj he]
      exact .separator hdashes
    · obtain ⟨name, hname, rfl⟩ := Option.map_eq_some_iff.mp h
      exact .entityOpen ((entityOpen?_eq_some_iff hend).mp hname)
    · obtain ⟨left, connector, right, label, rfl⟩ := exists_of_relationship? h
      exact .relationship (relationship?_eq_some_iff.mp h)
    · obtain ⟨hstart, h⟩ := Option.ite_none_left_eq_some.mp h
      obtain ⟨a, ha, rfl⟩ := Option.map_eq_some_iff.mp h
      exact .attr hstart (attribute?_eq_some_iff.mp ha)

theorem ofText_eq_findSome? (htrim : trim text = text) :
    ofText text = (readers.findSome? (· text)).getD .unrecognized := by
  unfold ofText
  rw [htrim]
  -- a quote in front is a case of its own, and else the readers are tried one by one
  by_cases hstart : text.head? = some quote
  · simp [readers, hstart]
  simp only [readers, unquoted, List.findSome?_cons, List.findSome?_nil, if_neg hstart]
  split
  · rfl
  · split
    · rfl
    · split
      · rfl
      · cases entityOpen? text with
        | some name => rfl
        | none =>
          cases relationship? text with
          | some line => rfl
          | none =>
            cases attribute? (trim (text.filter (· ≠ quote))) with
            | some a => rfl
            | none => rfl

/-- In any order a form is found, or there is none. -/
theorem form_in_order (htrim : trim text = text) {order : List (List Char → Option Line)}
    (hperm : order.Perm readers) :
    Form text ((order.findSome? (· text)).getD .unrecognized) ∨
      (∀ line, ¬ Form text line) ∧
        (order.findSome? (· text)).getD .unrecognized = .unrecognized := by
  cases hfound : order.findSome? (· text) with
  | some line =>
    obtain ⟨reader, hmem, hreader⟩ := List.exists_of_findSome?_eq_some hfound
    exact Or.inl ((form_iff_exists_reader htrim).mpr ⟨reader, hperm.mem_iff.mp hmem, hreader⟩)
  | none =>
    refine Or.inr ⟨fun line h => ?_, rfl⟩
    obtain ⟨reader, hmem, hreader⟩ := (form_iff_exists_reader htrim).mp h
    have hnone := List.findSome?_eq_none_iff.mp hfound reader (hperm.mem_iff.mpr hmem)
    exact absurd hreader (by simp [hnone])

theorem Form.ne_unrecognized (h : Form text line) : line ≠ .unrecognized := by
  cases h <;> exact nofun

/--
**A line is read by its form, and has one at most.** Each kind of line is what is read if and only
if the text between the blanks has that form, a line that is not known has none, and the readers
of the forms can be tried in any order.
-/
theorem ofText_grammar (raw : List Char) :
    (∀ line ≠ .unrecognized, ofText raw = line ↔ Form (trim raw) line) ∧
      (ofText raw = .unrecognized ↔ ∀ line, ¬ Form (trim raw) line) ∧
      (∀ line line', Form (trim raw) line → Form (trim raw) line' → line = line') ∧
      ∀ order : List (List Char → Option Line), order.Perm readers →
        (order.findSome? (· (trim raw))).getD .unrecognized = ofText raw := by
  have htrim := trim_trim raw
  have hread : ∀ line, Form (trim raw) line → ofText raw = line := by
    intro line h
    rw [← ofText_trim]
    exact ofText_of_form htrim h
  -- either some reader answers, in whatever order they are tried, or there is no form
  have hform : Form (trim raw) (ofText raw) ∨
      (∀ line, ¬ Form (trim raw) line) ∧ ofText raw = .unrecognized := by
    have h := form_in_order htrim (List.Perm.refl readers)
    rwa [← ofText_eq_findSome? htrim, ofText_trim] at h
  refine ⟨fun line hline => ⟨?_, hread line⟩, ⟨?_, ?_⟩, ?_, ?_⟩
  · rintro rfl
    exact hform.resolve_right fun h => hline h.2
  · intro hunknown line h
    exact h.ne_unrecognized ((hread line h).symm.trans hunknown)
  · intro hno
    exact (hform.resolve_left (hno _)).2
  · intro line line' h h'
    exact (hread line h).symm.trans (hread line' h')
  · intro order hperm
    rcases form_in_order htrim hperm with h | ⟨hno, hunknown⟩
    · exact (hread _ h).symm
    · exact hunknown.trans (hform.resolve_left (hno _)).2.symm

example : ofText "entity : text".toList = .attr ⟨"entity", .text, none, false⟩ ∧
    ofText "entity o".toList = .entityOpen "o" ∧
    ofText "entity o|--|| A : 'x' : y".toList =
      .relationship "entity" ⟨"o|", "--", "||"⟩ "A" (some "'x' : y") := by
  decide +kernel

end Line

end Crowfoot
