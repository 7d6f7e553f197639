import Crowfoot.Diagram.Writing
import Crowfoot.Proofs.Lexing
import Mathlib.Data.Option.Basic

/-!
# A written line is read back

The line of an attribute, of a relationship and the two of a block are read as what they were
written for. The readers are tried in an order, so a line must also be none of the forms that are
tried before: behind the name of an attribute or a relationship there is no second name that ends
the line, which keeps it apart from the opening of a block even if it is called `entity`.
-/

namespace Crowfoot

open Text

/-! ## What can be written -/

/-- The words of the types that are built in. -/
def DataType.builtIn : List String := ["number", "text", "datetime", "boolean"]

/-- A word that can stand for a type. -/
def IsToken (token : String) : Prop :=
  token ≠ "" ∧ ∀ c ∈ token.toList, isBlank c = false ∧ c ≠ '<' ∧ c ≠ Line.quote

instance (token : String) : Decidable (IsToken token) :=
  decidable_of_iff (token ≠ "" ∧
    token.toList.all (fun c => isBlank c = false ∧ c ≠ '<' ∧ c ≠ Line.quote) = true)
    (and_congr_right fun _ => by simp only [List.all_eq_true, decide_eq_true_eq])

/-- A text that can stand between `<<` and `>>`. -/
structure IsMark (text : String) : Prop where
  trimmed : trim text.toList = text.toList
  open_ended : ¬ ['>', '>'] <:+: text.toList
  one_line : '\n' ∉ text.toList
  unquoted : Line.quote ∉ text.toList

/-- A text that can stand behind the colon of a relationship. -/
structure IsLabel (text : String) : Prop where
  nonempty : text ≠ ""
  trimmed : trim text.toList = text.toList
  one_line : '\n' ∉ text.toList

/-- An attribute that can be written. -/
structure Attribute.Writable (a : Attribute) : Prop where
  name : IsName a.name
  token : IsToken a.type.token
  /-- A type that is not built in is not called like one that is. -/
  other : ∀ token, a.type = .other token → ∀ word ∈ DataType.builtIn, ¬ SameName token word
  /-- A mark that is not that of a key is not written like it. -/
  mark : ∀ text, a.stereotype = some (.other text) → IsMark text ∧ ¬ SameName text "generated"

/-- A connector of known ends and a known line. -/
structure Connector.Recognized (c : Connector) : Prop where
  left : c.left ∈ leftEnds
  body : c.body ∈ bodies
  right : c.right ∈ rightEnds

/-- A relationship that can be written. -/
structure Relationship.Writable (r : Relationship) : Prop where
  left : IsName r.left
  right : IsName r.right
  connector : r.connector.Recognized
  label : ∀ text, r.label = some text → IsLabel text

/-! ## Types and marks -/

theorem DataType.ofToken_token {type : DataType}
    (h : ∀ token, type = .other token → ∀ word ∈ builtIn, ¬ SameName token word) :
    ofToken type.token = type := by
  cases type with
  | number => rfl
  | text => rfl
  | datetime => rfl
  | boolean => rfl
  | other token =>
    have hnot := h token rfl
    have hnumber := hnot "number" (by decide)
    have htext := hnot "text" (by decide)
    have hdatetime := hnot "datetime" (by decide)
    have hboolean := hnot "boolean" (by decide)
    simp [ofToken, DataType.token, hnumber, htext, hdatetime, hboolean]

namespace Attribute.Writable

variable {a : Attribute} {mark : Stereotype}

/-- The mark of a key is written like any other. -/
theorem isMark (h : a.Writable) (hmark : a.stereotype = some mark) : IsMark mark.text := by
  cases mark with
  | generated =>
    exact ⟨by decide +kernel, by decide +kernel, by decide +kernel, by decide +kernel⟩
  | other text => exact (h.mark text hmark).1

theorem ofText_mark (h : a.Writable) (hmark : a.stereotype = some mark) :
    Stereotype.ofText (String.ofList (' ' :: (mark.text.toList ++ [' ']))) = mark := by
  unfold Stereotype.ofText
  rw [String.toList_ofList, trim_space_around (h.isMark hmark).trimmed, String.ofList_toList]
  cases mark with
  | generated => exact if_pos rfl
  | other text => exact if_neg (h.mark text hmark).2

end Attribute.Writable

namespace Line

/-! ## The forms of a line -/

/-- A line that is not told by its first character. -/
def Plain (cs : List Char) : Prop :=
  trim cs = cs ∧ ∃ c rest, cs = c :: rest ∧ c ≠ quote ∧ c ≠ '\x7d' ∧ c ≠ '-'

variable {cs : List Char}

/-- A line that begins like a name or with a star is told by what follows. -/
theorem plain_of_start {c : Char} (hc : isBlank c = false ∧ c ≠ quote ∧ c ≠ '\x7d' ∧ c ≠ '-')
    (hend : Stops isBlank (c :: cs).reverse) : Plain (c :: cs) :=
  ⟨trim_eq_self_iff.mpr ⟨Stops.cons_iff.mpr hc.1, hend⟩, c, cs, rfl, hc.2⟩

theorem start_of_isNameChar {c : Char} (h : isNameChar c = true) :
    isBlank c = false ∧ c ≠ quote ∧ c ≠ '\x7d' ∧ c ≠ '-' :=
  ⟨not_isBlank_of_isNameChar h, ne_of_isNameChar h (by decide), ne_of_isNameChar h (by decide),
    ne_of_isNameChar h (by decide)⟩

theorem ofText_entityOpen {name : String} (h : Plain cs) (hopen : entityOpen? cs = some name) :
    ofText cs = .entityOpen name := by
  obtain ⟨htrim, c, rest, rfl, hquote, hclose, hdash⟩ := h
  unfold ofText
  rw [htrim]
  simp [hquote, hclose, hdash, hopen]

theorem ofText_relationship {line : Line} (h : Plain cs) (hopen : entityOpen? cs = none)
    (hrelationship : relationship? cs = some line) : ofText cs = line := by
  obtain ⟨htrim, c, rest, rfl, hquote, hclose, hdash⟩ := h
  unfold ofText
  rw [htrim]
  simp [hquote, hclose, hdash, hopen, hrelationship]

theorem ofText_attr {a : Attribute} (h : Plain cs) (hopen : entityOpen? cs = none)
    (hrelationship : relationship? cs = none) (hunquoted : quote ∉ cs)
    (hattribute : attribute? cs = some a) : ofText cs = .attr a := by
  obtain ⟨htrim, c, rest, rfl, hquote, hclose, hdash⟩ := h
  have hfilter : (c :: rest).filter (· ≠ quote) = c :: rest := by
    rw [List.filter_eq_self]
    intro d hd
    exact decide_eq_true fun he => hunquoted (he ▸ hd)
  unfold ofText
  rw [htrim]
  simp only [hopen, hrelationship, hfilter, htrim, hattribute]
  simp [hquote, hclose, hdash]

/-- A name that is followed by more than another name does not open a block. -/
theorem entityOpen?_eq_none {name : String} (hname : IsName name) {rest : List Char}
    (h : ∀ other after, name? (skipGap rest) = some (other, after) →
      ∃ c tail, after = c :: tail ∧ isGap c = false ∧ c ≠ '\x7b') :
    entityOpen? (name.toList ++ ' ' :: rest) = none := by
  have hgap : entityOpen? ("entity".toList ++ ' ' :: rest) = none := by
    unfold entityOpen?
    rw [after?_append]
    cases hother : name? (skipGap rest) with
    | none => simp [skipGap_space, hother, isGap]
    | some found =>
      obtain ⟨other, after⟩ := found
      obtain ⟨c, tail, rfl, hc, hbrace⟩ := h other after hother
      have hskip : skipGap (c :: tail) = c :: tail := skipGap_of_stops (Stops.cons_iff.mpr hc)
      have hafter : after? "\x7b" (c :: tail) = none := by
        cases hb : after? "\x7b" (c :: tail) with
        | none => rfl
        | some found => exact absurd (List.cons.inj (after?_eq_some_iff.mp hb)).1.symm hbrace
      simp [skipGap_space, hother, isGap, hskip, hafter]
  cases hafter : after? "entity" (name.toList ++ ' ' :: rest) with
  | none =>
    unfold entityOpen?
    rw [hafter]
    rfl
  | some tail =>
    rcases List.append_eq_append_iff.mp (after?_eq_some_iff.mp hafter) with
      ⟨more, hsplit, htail⟩ | ⟨more, hsplit, htail⟩
    · cases more with
      | nil =>
        rw [List.append_nil] at hsplit
        rw [hsplit]
        exact hgap
      | cons c cs =>
        -- the name goes on behind the word
        have hc : isGap c = false :=
          not_isGap_of_isNameChar (hname.2 c (by rw [hsplit]; simp))
        unfold entityOpen?
        rw [hafter, htail]
        simp [hc]
    · cases more with
      | nil =>
        rw [List.append_nil] at hsplit
        rw [← hsplit]
        exact hgap
      | cons c cs =>
        -- there is no gap in the word
        obtain ⟨rfl, _⟩ := List.cons.inj htail
        have hmem : ' ' ∈ "entity".toList := by
          rw [hsplit]
          simp
        exact absurd hmem (by decide)

theorem entityOpen?_opening {name : String} (h : IsName name) :
    entityOpen? ("entity".toList ++ ' ' :: (name.toList ++ [' ', '\x7b'])) = some name := by
  have hname : name? (name.toList ++ [' ', '\x7b']) = some (name, [' ', '\x7b']) :=
    name?_append h (Stops.cons_iff.mpr (by decide))
  have hbrace : after? "\x7b" ['\x7b'] = some [] := rfl
  have hskip : skipGap [' ', '\x7b'] = ['\x7b'] := rfl
  unfold entityOpen?
  rw [after?_append]
  simp [skipGap_space, skipGap_name h, hname, isGap, hbrace, hskip]
  rfl

/-! ## Connectors -/

theorem connector?_append {c : Connector} (h : c.Recognized) (rest : List Char) :
    connector? (c.text.toList ++ rest) = some (c, rest) := by
  have hleft : ∀ w ∈ Connector.leftEnds, w.length = 2 := by decide
  have hbody : ∀ w ∈ Connector.bodies, w.length = 2 := by decide
  have hright : ∀ w ∈ Connector.rightEnds, w.length = 2 := by decide
  unfold connector? Connector.text
  rw [String.toList_append, String.toList_append, List.append_assoc, List.append_assoc,
    oneOf?_append hleft h.left]
  simp [oneOf?_append hbody h.body, oneOf?_append hright h.right]

/-- A connector begins with a mark, or with a letter and then a mark. -/
theorem connector_start {c : Connector} (h : c.Recognized) :
    (∃ d cs, c.text.toList = d :: cs ∧ isGap d = false ∧ isNameChar d = false) ∨
      ∃ cs, c.text.toList = 'o' :: '|' :: cs := by
  have htext : c.text.toList = c.left.toList ++ (c.body.toList ++ c.right.toList) := by
    rw [Connector.text, String.toList_append, String.toList_append, List.append_assoc]
  have hleft := h.left
  simp only [Connector.leftEnds, List.mem_cons, List.not_mem_nil, or_false] at hleft
  rw [htext]
  rcases hleft with he | he | he | he | he <;> rw [he]
  · exact Or.inl ⟨'|', _, rfl, by decide, by decide⟩
  · exact Or.inl ⟨'|', _, rfl, by decide, by decide⟩
  · exact Or.inr ⟨_, rfl⟩
  · exact Or.inl ⟨'\x7d', _, rfl, by decide, by decide⟩
  · exact Or.inl ⟨'\x7d', _, rfl, by decide, by decide⟩

/-- What stands between the brackets is the mark. -/
theorem stereotype?_append {inner : List Char} (hnone : ¬ ['>', '>'] <:+: inner)
    (hlast : inner.getLast? ≠ some '>') :
    stereotype? ('<' :: '<' :: (inner ++ ['>', '>'])) =
      some (some (.ofText (String.ofList inner))) := by
  have hclose := untilClose?_append hnone hlast []
  rw [stereotype?, hclose]
  rfl

theorem skipGap_connector {c : Connector} (h : c.Recognized) (rest : List Char) :
    skipGap (c.text.toList ++ rest) = c.text.toList ++ rest := by
  rcases connector_start h with ⟨d, cs, htext, hgap, _⟩ | ⟨cs, htext⟩
  · rw [htext]
    exact skipGap_of_stops (Stops.cons_iff.mpr hgap)
  · rw [htext]
    exact skipGap_of_stops (Stops.cons_iff.mpr (by decide))

/-- A relationship does not open a block, even if its first entity is called `entity`. -/
theorem entityOpen?_connector {name : String} (hname : IsName name) {c : Connector}
    (h : c.Recognized) (rest : List Char) :
    entityOpen? (name.toList ++ ' ' :: (c.text.toList ++ rest)) = none := by
  refine entityOpen?_eq_none hname fun other after hother => ?_
  rw [skipGap_connector h] at hother
  rcases connector_start h with ⟨d, cs, htext, _, hmark⟩ | ⟨cs, htext⟩
  · have hnone : name? (c.text.toList ++ rest) = none := by
      rw [htext]
      exact run?_of_stops (Stops.cons_iff.mpr hmark)
    rw [hnone] at hother
    exact absurd hother (by simp)
  · -- the letter of the connector reads as a name, but the line goes on
    have hletter : name? (c.text.toList ++ rest) = some ("o", '|' :: (cs ++ rest)) := by
      rw [htext]
      exact name?_append (by decide : IsName "o") (Stops.cons_iff.mpr (by decide))
    rw [hletter] at hother
    obtain ⟨_, rfl⟩ := Prod.mk.inj (Option.some.inj hother)
    exact ⟨'|', cs ++ rest, rfl, by decide, by decide⟩

end Line

/-! ## Attributes -/

namespace Attribute

variable {a : Attribute}

/-- What is written behind the type. -/
def markPart (a : Attribute) : List Char :=
  a.stereotype.elim [] fun mark =>
    ' ' :: '<' :: '<' :: ' ' :: (mark.text.toList ++ [' ', '>', '>'])

/-- What is written without the star. -/
def body (a : Attribute) : List Char :=
  a.name.toList ++ ' ' :: ':' :: ' ' :: (a.type.token.toList ++ a.markPart)

theorem written_toList (a : Attribute) :
    a.written.toList = (if a.mandatory then ['*', ' '] else []) ++ a.body := by
  unfold written body markPart
  cases a.mandatory <;> cases a.stereotype <;> simp

/-- What holds of the characters of all parts holds of those of the line. -/
theorem forall_written {P : Char → Prop} (hname : ∀ c ∈ a.name.toList, P c)
    (htoken : ∀ c ∈ a.type.token.toList, P c)
    (hmark : ∀ mark, a.stereotype = some mark → ∀ c ∈ mark.text.toList, P c)
    (hrest : ∀ c ∈ ['*', ' ', ':', '<', '>'], P c) : ∀ c ∈ a.written.toList, P c := by
  have hpart : ∀ c ∈ a.markPart, P c := by
    intro c hc
    unfold markPart at hc
    cases hs : a.stereotype with
    | none =>
      rw [hs] at hc
      exact absurd hc (by simp)
    | some mark =>
      rw [hs] at hc
      simp only [Option.elim_some, List.mem_cons, List.mem_append, List.not_mem_nil, or_false] at hc
      -- the marks around a stereotype are fixed, and its text is covered by the hypothesis
      rcases hc with rfl | rfl | rfl | rfl | hc | rfl | rfl | rfl
      all_goals first | exact hmark mark hs c hc | exact hrest _ (by simp)
  intro c hc
  rw [written_toList, List.mem_append] at hc
  rcases hc with hc | hc
  · have hstar : c ∈ ['*', ' '] := by
      cases hm : a.mandatory <;> rw [hm] at hc
      · exact absurd hc (by simp)
      · exact hc
    exact hrest c (by simp only [List.mem_cons, List.not_mem_nil, or_false] at hstar ⊢; tauto)
  · unfold body at hc
    simp only [List.mem_append, List.mem_cons] at hc
    rcases hc with hc | rfl | rfl | rfl | hc | hc
    · exact hname c hc
    · exact hrest _ (by simp)
    · exact hrest _ (by simp)
    · exact hrest _ (by simp)
    · exact htoken c hc
    · exact hpart c hc

namespace Writable

theorem stops_markPart (a : Attribute) : Stops Line.isTypeChar a.markPart := by
  unfold markPart
  cases a.stereotype with
  | none => exact Stops.nil _
  | some mark => exact Stops.cons_iff.mpr (by decide)

theorem stereotype?_markPart (h : a.Writable) :
    Line.stereotype? (Line.skipGap a.markPart) = some a.stereotype := by
  unfold markPart
  cases hs : a.stereotype with
  | none => rfl
  | some mark =>
    have hmark := h.isMark hs
    -- the mark is read with the two blanks around it
    have hnone : ¬ ['>', '>'] <:+: ' ' :: (mark.text.toList ++ [' ']) := by
      rw [List.infix_cons_iff, List.infix_concat_iff]
      rintro (⟨t, ht⟩ | ⟨t, ht⟩ | hin)
      · exact absurd (List.cons.inj ht).1 (by decide)
      · have hlast := congrArg List.getLast? ht
        simp at hlast
      · exact hmark.open_ended hin
    have hlast : (' ' :: (mark.text.toList ++ [' '])).getLast? ≠ some '>' := by
      rw [← List.cons_append, List.getLast?_concat]
      decide
    have hread := Line.stereotype?_append hnone hlast
    rw [h.ofText_mark hs] at hread
    rw [← hread]
    show Line.stereotype? ('<' :: '<' :: ' ' :: (mark.text.toList ++ [' ', '>', '>'])) = _
    simp

theorem name?_body (h : a.Writable) : Line.name? a.body =
    some (a.name, ' ' :: ':' :: ' ' :: (a.type.token.toList ++ a.markPart)) :=
  Line.name?_append h.name (Stops.cons_iff.mpr (by decide))

/-- Without the star an attribute is neither a block nor a relationship. -/
theorem entityOpen?_body (h : a.Writable) : Line.entityOpen? a.body = none := by
  refine Line.entityOpen?_eq_none h.name fun other after hother => ?_
  have hnone : Line.name? (Line.skipGap (':' :: ' ' :: (a.type.token.toList ++ a.markPart))) = none :=
    Line.run?_of_stops (Stops.cons_iff.mpr (by decide))
  rw [hnone] at hother
  exact absurd hother (by simp)

theorem relationship?_body (h : a.Writable) : Line.relationship? a.body = none := by
  have hconnector : Line.connector?
      (Line.skipGap (' ' :: ':' :: ' ' :: (a.type.token.toList ++ a.markPart))) = none := rfl
  unfold Line.relationship?
  rw [h.name?_body]
  simp [hconnector]

theorem star_written (h : a.Writable) : ∃ rest,
    Line.star a.written.toList = (a.mandatory, rest) ∧ Line.skipGap rest = a.body := by
  rw [written_toList]
  cases a.mandatory with
  | true =>
    refine ⟨' ' :: a.body, rfl, ?_⟩
    rw [Line.skipGap_space]
    exact Line.skipGap_name h.name _
  | false =>
    refine ⟨a.body, ?_, Line.skipGap_name h.name _⟩
    obtain ⟨c, cs, hcs, hc⟩ := h.name.exists_cons
    -- without the mark the line begins with the name, which has no star in it
    have hne : c ≠ '*' := Line.ne_of_isNameChar hc (by decide)
    show Line.star a.body = _
    unfold body
    rw [hcs]
    exact Line.star.eq_2 _ fun rest he => hne (List.cons.inj he).1

/-- **All parts of an attribute are read from its line.** -/
theorem attribute?_written (h : a.Writable) : Line.attribute? a.written.toList = some a := by
  obtain ⟨rest, hstar, hrest⟩ := h.star_written
  have hcolon : Line.after? ":"
      (Line.skipGap (' ' :: ':' :: ' ' :: (a.type.token.toList ++ a.markPart))) =
        some (' ' :: (a.type.token.toList ++ a.markPart)) := rfl
  -- the token of a type has no blank and no bracket, so it is read to its end
  have hchars : ∀ c ∈ a.type.token.toList, Line.isTypeChar c = true := by
    intro c hc
    obtain ⟨hblank, hbracket, _⟩ := h.token.2 c hc
    simp [Line.isTypeChar, hblank, hbracket]
  have htoken := Line.run?_append h.token.1 hchars (stops_markPart a)
  have hskip : Line.skipGap (' ' :: (a.type.token.toList ++ a.markPart)) =
      a.type.token.toList ++ a.markPart := by
    obtain ⟨c, cs, hcs⟩ := exists_cons_of_ne_empty h.token.1
    rw [Line.skipGap_space, hcs]
    refine Line.skipGap_of_stops (Stops.cons_iff.mpr ?_)
    by_contra hgap
    have hblank := (h.token.2 c (by rw [hcs]; exact List.mem_cons_self ..)).1
    rw [Line.isBlank_of_isGap ((Bool.not_eq_false _).mp hgap)] at hblank
    exact absurd hblank (by decide)
  have htype := DataType.ofToken_token h.other
  unfold Line.attribute?
  rw [hstar]
  simp only [hrest, h.name?_body]
  simp [hcolon, hskip, htoken, h.stereotype?_markPart, htype]

theorem relationship?_written (h : a.Writable) : Line.relationship? a.written.toList = none := by
  rw [written_toList]
  cases a.mandatory with
  | true => rfl
  | false => exact h.relationship?_body

theorem entityOpen?_written (h : a.Writable) : Line.entityOpen? a.written.toList = none := by
  rw [written_toList]
  cases a.mandatory with
  | true => rfl
  | false => exact h.entityOpen?_body

theorem plain_written (h : a.Writable) : Line.Plain a.written.toList := by
  -- the line ends with the mark if there is one, and else with the type
  have hback : Stops isBlank (a.type.token.toList ++ a.markPart).reverse := by
    unfold markPart
    cases a.stereotype with
    | none =>
      rw [Option.elim_none, List.append_nil]
      exact Stops.of_forall fun c hc => (h.token.2 c (List.mem_reverse.mp hc)).1
    | some mark =>
      refine Stops.reverse_append (by simp) ?_
      show Stops isBlank (' ' :: '<' :: '<' :: ' ' :: (mark.text.toList ++ [' ', '>', '>'])).reverse
      simp only [List.reverse_cons, List.reverse_append]
      exact Stops.cons_iff.mpr (by decide)
  obtain ⟨token, more, htoken⟩ := exists_cons_of_ne_empty h.token.1
  have hend : Stops isBlank a.body.reverse := by
    have hsplit : a.body = (a.name.toList ++ [' ', ':', ' ']) ++ (a.type.token.toList ++ a.markPart) := by
      unfold body
      simp
    rw [hsplit]
    exact Stops.reverse_append (by simp [htoken]) hback
  obtain ⟨c, cs, hname, hc⟩ := h.name.exists_cons
  have hbody : a.body = c :: (cs ++ ' ' :: ':' :: ' ' :: (a.type.token.toList ++ a.markPart)) := by
    rw [body, hname, List.cons_append]
  rw [written_toList]
  -- it begins with the star or with the name
  cases a.mandatory with
  | true =>
    have hne : a.body ≠ [] := by
      rw [hbody]
      exact List.cons_ne_nil _ _
    have hstar : Stops isBlank (['*', ' '] ++ a.body).reverse := Stops.reverse_append hne hend
    exact Line.plain_of_start (by decide) hstar
  | false =>
    rw [hbody] at hend ⊢
    exact Line.plain_of_start (Line.start_of_isNameChar hc) hend

/-- **A written attribute is read back.** -/
theorem ofText_written (h : a.Writable) : Line.ofText a.written.toList = .attr a := by
  refine Line.ofText_attr h.plain_written h.entityOpen?_written h.relationship?_written ?_
    h.attribute?_written
  intro hquote
  refine forall_written (P := (· ≠ Line.quote)) ?_ ?_ ?_ (by simp [Line.quote]) _ hquote rfl
  · intro c hc
    exact Line.ne_of_isNameChar (h.name.2 c hc) (by decide)
  · intro c hc
    exact (h.token.2 c hc).2.2
  · intro mark hmark c hc he
    exact (h.isMark hmark).unquoted (he ▸ hc)

theorem one_line_written (h : a.Writable) : '\n' ∉ a.written.toList := by
  intro hline
  refine forall_written (P := (· ≠ '\n')) ?_ ?_ ?_ (by simp) _ hline rfl
  · intro c hc
    exact Line.ne_of_isNameChar (h.name.2 c hc) (by decide)
  · intro c hc he
    have hblank := (h.token.2 c hc).1
    rw [he] at hblank
    exact absurd hblank (by decide)
  · intro mark hmark c hc he
    exact (h.isMark hmark).one_line (he ▸ hc)

end Writable

end Attribute

/-! ## Relationships -/

namespace Relationship

variable {r : Relationship}

/-- What is written behind the entities. -/
def labelPart (r : Relationship) : List Char :=
  r.label.elim [] fun text => ' ' :: ':' :: ' ' :: text.toList

theorem written_toList (r : Relationship) :
    r.written.toList = r.left.toList ++
      ' ' :: (r.connector.text.toList ++ ' ' :: (r.right.toList ++ r.labelPart)) := by
  unfold written text labelPart
  cases r.label <;> simp

namespace Writable

theorem label?_labelPart (h : r.Writable) :
    Line.label? (Line.skipGap r.labelPart) = some r.label := by
  unfold labelPart
  cases hl : r.label with
  | none => rfl
  | some text =>
    obtain ⟨hne, htrim, _⟩ := h.label text hl
    obtain ⟨c, cs, hcs⟩ := exists_cons_of_ne_empty hne
    have hread : trim (' ' :: text.toList) = text.toList := htrim
    show Line.label? (':' :: ' ' :: text.toList) = _
    simp [Line.label?, hread, hne]

theorem relationship?_written (h : r.Writable) : Line.relationship? r.written.toList =
    some (.relationship r.left r.connector r.right r.label) := by
  have hleft : Line.name? (r.left.toList ++
      ' ' :: (r.connector.text.toList ++ ' ' :: (r.right.toList ++ r.labelPart))) =
        some (r.left, ' ' :: (r.connector.text.toList ++ ' ' :: (r.right.toList ++ r.labelPart))) :=
    Line.name?_append h.left (Stops.cons_iff.mpr (by decide))
  -- a label begins with its gap, so the name in front of it is read to its end
  have hstop : Stops Line.isNameChar r.labelPart := by
    unfold labelPart
    cases r.label with
    | none => exact Stops.nil _
    | some text => exact Stops.cons_iff.mpr (by decide)
  have hright := Line.name?_append h.right hstop
  have hgap : Line.skipGap (' ' :: (r.right.toList ++ r.labelPart)) = r.right.toList ++ r.labelPart := by
    rw [Line.skipGap_space, Line.skipGap_name h.right]
  rw [written_toList]
  unfold Line.relationship?
  rw [hleft]
  simp [Line.skipGap_space, Line.skipGap_connector h.connector, Line.connector?_append h.connector,
    hgap, hright, h.label?_labelPart]

theorem plain_written (h : r.Writable) : Line.Plain r.written.toList := by
  obtain ⟨d, ds, hright, _⟩ := h.right.exists_cons
  -- the line ends with the label if there is one, and else with the name
  have hback : Stops isBlank (r.right.toList ++ r.labelPart).reverse := by
    unfold labelPart
    cases hl : r.label with
    | none =>
      rw [Option.elim_none, List.append_nil]
      exact Stops.of_forall fun c hc =>
        Line.not_isBlank_of_isNameChar (h.right.2 c (List.mem_reverse.mp hc))
    | some text =>
      obtain ⟨hne, htrim, _⟩ := h.label text hl
      obtain ⟨e, es, htext⟩ := exists_cons_of_ne_empty hne
      have hend := (trim_eq_self_iff.mp htrim).2
      have hnonempty : text.toList ≠ [] := by
        rw [htext]
        exact List.cons_ne_nil e es
      have hpart : Stops isBlank ([' ', ':', ' '] ++ text.toList).reverse :=
        Stops.reverse_append hnonempty hend
      exact Stops.reverse_append (by simp) hpart
  have hend : Stops isBlank r.written.toList.reverse := by
    have hsplit : r.written.toList = (r.left.toList ++ ' ' :: (r.connector.text.toList ++ [' '])) ++
        (r.right.toList ++ r.labelPart) := by
      rw [written_toList]
      simp
    rw [hsplit]
    exact Stops.reverse_append (by simp [hright]) hback
  obtain ⟨c, cs, hleft, hc⟩ := h.left.exists_cons
  rw [written_toList, hleft] at hend ⊢
  exact Line.plain_of_start (Line.start_of_isNameChar hc) hend

/-- **A written relationship is read back.** -/
theorem ofText_written (h : r.Writable) :
    Line.ofText r.written.toList = .relationship r.left r.connector r.right r.label := by
  refine Line.ofText_relationship h.plain_written ?_ h.relationship?_written
  rw [written_toList]
  exact Line.entityOpen?_connector h.left h.connector _

theorem one_line_written (h : r.Writable) : '\n' ∉ r.written.toList := by
  -- connectors are made of finitely many words
  have hconnector : '\n' ∉ r.connector.text.toList := by
    have hends : ∀ w ∈ Connector.leftEnds ++ Connector.bodies ++ Connector.rightEnds,
        '\n' ∉ w.toList := by
      decide
    have hleft := hends r.connector.left (by simp [h.connector.left])
    have hbody := hends r.connector.body (by simp [h.connector.body])
    have hright := hends r.connector.right (by simp [h.connector.right])
    simp [Connector.text, hleft, hbody, hright]
  have hlabel : '\n' ∉ r.labelPart := by
    unfold labelPart
    cases hl : r.label with
    | none => simp
    | some text => simp [(h.label text hl).one_line]
  rw [written_toList]
  have hleft : '\n' ∉ r.left.toList := h.left.not_mem (by decide)
  have hright : '\n' ∉ r.right.toList := h.right.not_mem (by decide)
  simp [hleft, hright, hconnector, hlabel]

end Writable

end Relationship

/-! ## Blocks -/

namespace Entity

variable {e : Entity}

theorem opening_toList (e : Entity) :
    e.opening.toList = "entity".toList ++ ' ' :: (e.name.toList ++ [' ', '\x7b']) := by
  unfold opening
  simp

theorem plain_opening (e : Entity) : Line.Plain e.opening.toList := by
  have hend : Stops isBlank e.opening.toList.reverse := by
    rw [opening_toList]
    simp only [List.reverse_append, List.reverse_cons]
    exact Stops.cons_iff.mpr (by decide)
  rw [opening_toList] at hend ⊢
  exact Line.plain_of_start (by decide) hend

/-- **The opening of a block is read back.** -/
theorem ofText_opening (h : IsName e.name) : Line.ofText e.opening.toList = .entityOpen e.name := by
  refine Line.ofText_entityOpen (plain_opening e) ?_
  rw [opening_toList]
  exact Line.entityOpen?_opening h

theorem one_line_opening (h : IsName e.name) : '\n' ∉ e.opening.toList := by
  have hname : '\n' ∉ e.name.toList := h.not_mem (by decide)
  rw [opening_toList]
  simp [hname]

end Entity

end Crowfoot
