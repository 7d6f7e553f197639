import Crowfoot.Proofs.Lexing
import Crowfoot.Xmi.Element

/-!
# A document is read in one way only

What is written of an element shows where it ends. A tag goes on up to a space, a slash or an angle
bracket, the value of an attribute up to the next quote, and the elements within another up to the
first line that stands no further in than the other does. So each part of a document can be
cancelled with anything behind it, and two elements with one rendering are one.

This is why a statement about a document may be made about the element it is the text of.
-/

namespace Crowfoot

/-! ## Rows of words -/

/-- A run and what stops it are told apart in one way only. -/
theorem Stops.append_inj {p : Char → Bool} {run run' rest rest' : List Char}
    (hrun : ∀ c ∈ run, p c = true) (hrun' : ∀ c ∈ run', p c = true) (hrest : Stops p rest)
    (hrest' : Stops p rest') (h : run ++ rest = run' ++ rest') : run = run' ∧ rest = rest' := by
  have htake := congrArg (List.takeWhile p) h
  rw [List.takeWhile_append_of_pos hrun, List.takeWhile_append_of_pos hrun', hrest.takeWhile_eq,
    hrest'.takeWhile_eq, List.append_nil, List.append_nil] at htake
  subst htake
  exact ⟨rfl, List.append_cancel_left h⟩

/--
**If each word can be cancelled with anything behind it, so can a row of words**, as long as what
ends the row does not begin with a word.
-/
theorem flatMap_append_inj {α : Type} {word : α → List Char} {row row' : List α}
    {rest rest' : List Char}
    (hword : ∀ a ∈ row, ∀ b ∈ row', ∀ x y, word a ++ x = word b ++ y → a = b ∧ x = y)
    (hrest : ∀ b ∈ row', ∀ x, rest ≠ word b ++ x) (hrest' : ∀ a ∈ row, ∀ x, rest' ≠ word a ++ x)
    (h : row.flatMap word ++ rest = row'.flatMap word ++ rest') : row = row' ∧ rest = rest' := by
  -- the words of both rows are cancelled one by one, so the other row must be free in the induction
  induction row generalizing row' with
  | nil =>
    cases row' with
    | nil => exact ⟨rfl, h⟩
    | cons b bs =>
      rw [List.flatMap_cons, List.append_assoc] at h
      exact absurd h (hrest b (List.mem_cons_self ..) _)
  | cons a as ih =>
    rw [List.flatMap_cons, List.append_assoc] at h
    cases row' with
    | nil => exact absurd h.symm (hrest' a (List.mem_cons_self ..) _)
    | cons b bs =>
      rw [List.flatMap_cons, List.append_assoc] at h
      obtain ⟨rfl, hrows⟩ := hword a (List.mem_cons_self ..) b (List.mem_cons_self ..) _ _ h
      obtain ⟨rfl, hends⟩ := ih
        (fun a ha b hb => hword a (List.mem_cons_of_mem _ ha) b (List.mem_cons_of_mem _ hb))
        (fun b hb => hrest b (List.mem_cons_of_mem _ hb))
        (fun a ha => hrest' a (List.mem_cons_of_mem _ ha)) hrows
      exact ⟨rfl, hends⟩

namespace Xmi

variable {x y : List Char}

/-! ## Values -/

theorem toList_escape (s : String) :
    (escape s).toList = s.toList.flatMap fun c => (escapeChar c).toList := by
  rw [escape, String.toList_join, List.flatMap_map]

theorem escapeChar_append_inj {c d : Char}
    (h : (escapeChar c).toList ++ x = (escapeChar d).toList ++ y) : c = d ∧ x = y := by
  unfold escapeChar at h
  split at h <;> split at h <;> simp_all [eq_comm]

/-- There is no quote in a value. -/
theorem quote_ne_escapeChar (c : Char) : '"' :: x ≠ (escapeChar c).toList ++ y := by
  unfold escapeChar
  split <;> simp_all [eq_comm]

/-- **A value ends at the next quote.** -/
theorem escape_append_inj {s t : String}
    (h : (escape s).toList ++ '"' :: x = (escape t).toList ++ '"' :: y) : s = t ∧ x = y := by
  rw [toList_escape, toList_escape] at h
  obtain ⟨hst, hxy⟩ := flatMap_append_inj (fun _ _ _ _ _ _ => escapeChar_append_inj)
    (fun c _ _ => quote_ne_escapeChar c) (fun c _ _ => quote_ne_escapeChar c) h
  exact ⟨String.toList_inj.mp hst, (List.cons.inj hxy).2⟩

/-! ## Tags -/

/-- A character of the name of an element or an attribute. -/
def isTagChar (c : Char) : Bool := c.isAlphanum || c = ':' || c = '_' || c = '-' || c = '.'

/-- The name of an element or an attribute. -/
def IsTag (name : String) : Prop := name ≠ "" ∧ ∀ c ∈ name.toList, isTagChar c = true

instance (name : String) : Decidable (IsTag name) :=
  decidable_of_iff (name ≠ "" ∧ name.toList.all isTagChar = true)
    (and_congr_right fun _ => List.all_eq_true)

theorem IsTag.append_inj {s t : String} (hs : IsTag s) (ht : IsTag t) (hx : Stops isTagChar x)
    (hy : Stops isTagChar y) (h : s.toList ++ x = t.toList ++ y) : s = t ∧ x = y := by
  obtain ⟨hst, hxy⟩ := Stops.append_inj hs.2 ht.2 hx hy h
  exact ⟨String.toList_inj.mp hst, hxy⟩

theorem toList_renderAttribute (a : String × String) :
    (renderAttribute a).toList
      = ' ' :: a.1.toList ++ '=' :: '"' :: (escape a.2).toList ++ ['"'] := by
  simp [renderAttribute]

theorem renderAttribute_append_inj {a b : String × String} (ha : IsTag a.1) (hb : IsTag b.1)
    (h : (renderAttribute a).toList ++ x = (renderAttribute b).toList ++ y) : a = b ∧ x = y := by
  simp only [toList_renderAttribute, List.cons_append, List.append_assoc, List.nil_append] at h
  obtain ⟨hkey, h⟩ := ha.append_inj hb (Stops.cons_iff.mpr (by decide))
    (Stops.cons_iff.mpr (by decide)) (List.cons.inj h).2
  obtain ⟨hvalue, hxy⟩ := escape_append_inj (List.cons.inj (List.cons.inj h).2).2
  exact ⟨Prod.ext hkey hvalue, hxy⟩

theorem toList_renderTag (tag : String) (attributes : List (String × String)) :
    (renderTag tag attributes).toList
      = tag.toList ++ attributes.flatMap fun a => (renderAttribute a).toList := by
  rw [renderTag, String.toList_append, String.toList_join, List.flatMap_map]

/-- What follows the attributes in an opening tag. -/
def EndsTag (rest : List Char) : Prop := ∃ c cs, rest = c :: cs ∧ c ∈ ['/', '>']

theorem EndsTag.stops (h : EndsTag x) : Stops isTagChar x := by
  obtain ⟨c, cs, rfl, hc⟩ := h
  rcases List.mem_pair.mp hc with rfl | rfl
  · exact Stops.cons_iff.mpr (by decide)
  · exact Stops.cons_iff.mpr (by decide)

theorem EndsTag.ne_renderAttribute (h : EndsTag x) (a : String × String) :
    x ≠ (renderAttribute a).toList ++ y := by
  obtain ⟨c, cs, rfl, hc⟩ := h
  intro h
  rw [toList_renderAttribute] at h
  rw [(List.cons.inj h).1] at hc
  exact absurd hc (by decide)

/-- An attribute has a space in front, so the name of the element ends there too. -/
theorem stops_attributes (attributes : List (String × String)) (hx : EndsTag x) :
    Stops isTagChar ((attributes.flatMap fun a => (renderAttribute a).toList) ++ x) := by
  cases attributes with
  | nil => exact hx.stops
  | cons a rest =>
    rw [List.flatMap_cons, toList_renderAttribute]
    exact Stops.cons_iff.mpr (by decide)

/-- **A tag shows its name, its attributes and where it ends.** -/
theorem renderTag_append_inj {tag tag' : String} {attributes attributes' : List (String × String)}
    (htag : IsTag tag) (htag' : IsTag tag') (hkeys : ∀ a ∈ attributes, IsTag a.1)
    (hkeys' : ∀ a ∈ attributes', IsTag a.1) (hx : EndsTag x) (hy : EndsTag y)
    (h : (renderTag tag attributes).toList ++ x = (renderTag tag' attributes').toList ++ y) :
    tag = tag' ∧ attributes = attributes' ∧ x = y := by
  rw [toList_renderTag, toList_renderTag, List.append_assoc, List.append_assoc] at h
  obtain ⟨hname, h⟩ :=
    htag.append_inj htag' (stops_attributes attributes hx) (stops_attributes attributes' hy) h
  exact ⟨hname, flatMap_append_inj
    (fun a ha b hb _ _ => renderAttribute_append_inj (hkeys a ha) (hkeys' b hb))
    (fun b _ _ => hx.ne_renderAttribute b) (fun a _ _ => hy.ne_renderAttribute a) h⟩

/-! ## Lines -/

/-- The lines, each with a line feed in front. -/
def broken (lines : List String) : List Char := lines.flatMap fun line => '\n' :: line.toList

theorem toList_intercalate (line : String) (lines : List String) :
    ("\n".intercalate (line :: lines)).toList = line.toList ++ broken lines := by
  rw [String.toList_intercalate]
  induction lines generalizing line with
  | nil => simp [broken]
  | cons next rest ih => simp_all [broken, List.intercalate]

/-- A line that far inside the tree, with a line feed in front and the text behind. -/
def lineOf (depth : Nat) (rest : List Char) : List Char :=
  '\n' :: (List.replicate (2 * depth) ' ' ++ rest)

theorem lineOf_inj {depth : Nat} (h : lineOf depth x = lineOf depth y) : x = y :=
  List.append_cancel_left (List.cons.inj h).2

/-- A tag further in is not one further out. -/
theorem lineOf_succ_ne (depth : Nat) : lineOf (depth + 1) x ≠ lineOf depth ('<' :: y) := by
  intro h
  have hmore : lineOf (depth + 1) x = lineOf depth (' ' :: ' ' :: x) := by
    rw [lineOf, lineOf, Nat.mul_succ, List.replicate_add, List.append_assoc]
    rfl
  rw [hmore] at h
  exact absurd (List.cons.inj (lineOf_inj h)).1 (by decide)

theorem broken_indented (depth : Nat) (line : String) (rest : List String) :
    broken (indented depth line :: rest) = lineOf depth (line.toList ++ broken rest) := by
  rw [broken, List.flatMap_cons, ← broken, indented, String.toList_append, String.toList_ofList]
  simp [lineOf]

theorem broken_append (lines rest : List String) :
    broken (lines ++ rest) = broken lines ++ broken rest := List.flatMap_append

/-! ## Elements -/

namespace Element

/-- The name of an element. -/
def tag : Element → String
  | empty tag _ => tag
  | nested tag _ _ => tag

/-- The attributes of an element. -/
def attributes : Element → List (String × String)
  | empty _ attributes => attributes
  | nested _ attributes _ => attributes

/-- The elements within an element. -/
def children : Element → List Element
  | empty _ _ => []
  | nested _ _ children => children

/-- The names within the element are names. -/
inductive WellFormed : Element → Prop
  | empty {tag : String} {attributes : List (String × String)} (htag : IsTag tag)
      (hkeys : ∀ a ∈ attributes, IsTag a.1) : WellFormed (.empty tag attributes)
  | nested {tag : String} {attributes : List (String × String)} {children : List Element}
      (htag : IsTag tag) (hkeys : ∀ a ∈ attributes, IsTag a.1)
      (hchildren : ∀ e ∈ children, WellFormed e) : WellFormed (.nested tag attributes children)

theorem WellFormed.isTag {e : Element} (h : e.WellFormed) : IsTag e.tag := by
  cases h <;> assumption

theorem WellFormed.isTag_key {e : Element} (h : e.WellFormed) : ∀ a ∈ e.attributes, IsTag a.1 := by
  cases h <;> assumption

theorem WellFormed.of_mem_children {e : Element} (h : e.WellFormed) :
    ∀ c ∈ e.children, c.WellFormed := by
  cases h with
  | empty _ _ => exact fun c hc => absurd hc (by simp [children])
  | nested _ _ hchildren => exact hchildren

/-- The text of an element that far inside a document, with a line feed in front. -/
def written (depth : Nat) (e : Element) : List Char := broken (e.lines depth)

/-- The line that closes an element, with a line feed in front and the text behind. -/
def closing (depth : Nat) (tag : String) (rest : List Char) : List Char :=
  lineOf depth ('<' :: '/' :: (tag.toList ++ '>' :: rest))

/-- What is written of an element behind its name and its attributes, with the text behind. -/
def body (depth : Nat) (rest : List Char) : Element → List Char
  | empty _ _ => '/' :: '>' :: rest
  | nested tag _ children =>
    '>' :: (children.flatMap (written (depth + 1)) ++ closing depth tag rest)

theorem endsTag_body (depth : Nat) (rest : List Char) (e : Element) :
    EndsTag (e.body depth rest) := by
  cases e with
  | empty tag attributes => exact ⟨_, _, rfl, by decide⟩
  | nested tag attributes children => exact ⟨_, _, rfl, by decide⟩

theorem broken_linesOfAll (depth : Nat) (es : List Element) :
    broken (linesOfAll depth es) = es.flatMap (written depth) := by
  induction es with
  | nil => rfl
  | cons e rest ih => rw [linesOfAll, broken_append, ih, List.flatMap_cons, written]

/-- Every element begins with a line of its own. -/
theorem written_append (depth : Nat) (e : Element) (rest : List Char) :
    written depth e ++ rest
      = lineOf depth ('<' :: ((renderTag e.tag e.attributes).toList ++ e.body depth rest)) := by
  cases e with
  | empty tag attributes =>
    rw [written, lines, broken_indented]
    simp [lineOf, broken, Element.tag, Element.attributes, body]
  | nested tag attributes children =>
    rw [written, lines, List.cons_append, broken_indented, broken_append, broken_linesOfAll,
      broken_indented]
    simp [lineOf, broken, Element.tag, Element.attributes, body, closing]

/-- The elements within another end where the other is closed. -/
theorem closing_ne_written (depth : Nat) (tag : String) (e : Element) :
    closing depth tag x ≠ written (depth + 1) e ++ y := by
  rw [written_append]
  exact fun h => lineOf_succ_ne depth h.symm

theorem closing_inj {depth : Nat} {tag : String} (h : closing depth tag x = closing depth tag y) :
    x = y := by
  have htag := (List.cons.inj (List.cons.inj (lineOf_inj h)).2).2
  exact (List.cons.inj (List.append_cancel_left htag)).2

/-- Where the texts of two elements are the same, so are their tags. -/
theorem opening_inj {depth : Nat} {e e' : Element} (he : e.WellFormed) (he' : e'.WellFormed)
    (h : written depth e ++ x = written depth e' ++ y) :
    e.tag = e'.tag ∧ e.attributes = e'.attributes ∧ e.body depth x = e'.body depth y := by
  rw [written_append, written_append] at h
  exact renderTag_append_inj he.isTag he'.isTag he.isTag_key he'.isTag_key (endsTag_body ..)
    (endsTag_body ..) (List.cons.inj (lineOf_inj h)).2

/--
**What is written of one element does not go on like what is written of another.**

The text behind is any, so that the claim for the elements within is about a row of words.
-/
theorem written_append_inj {depth : Nat} : ∀ {e e' : Element}, e.WellFormed → e'.WellFormed →
    ∀ {x y : List Char}, written depth e ++ x = written depth e' ++ y → e = e' ∧ x = y
  | .empty tag attributes, .empty tag' attributes', he, he', x, y, h => by
    obtain ⟨rfl, rfl, hbody⟩ := opening_inj he he' h
    exact ⟨rfl, (List.cons.inj (List.cons.inj hbody).2).2⟩
  | .empty tag attributes, .nested tag' attributes' children', he, he', x, y, h => by
    obtain ⟨_, _, hbody⟩ := opening_inj he he' h
    exact absurd (List.cons.inj hbody).1 (by decide)
  | .nested tag attributes children, .empty tag' attributes', he, he', x, y, h => by
    obtain ⟨_, _, hbody⟩ := opening_inj he he' h
    exact absurd (List.cons.inj hbody).1 (by decide)
  | .nested tag attributes children, .nested tag' attributes' children', he, he', x, y, h => by
    obtain ⟨rfl, rfl, hbody⟩ := opening_inj he he' h
    have hchildren : ∀ c ∈ children, c.WellFormed := he.of_mem_children
    have hchildren' : ∀ c ∈ children', c.WellFormed := he'.of_mem_children
    -- behind a child there is the next one, or the line that closes the parent
    obtain ⟨rfl, hclose⟩ := flatMap_append_inj
      (fun a ha b hb _ _ => written_append_inj (hchildren a ha) (hchildren' b hb))
      (fun b _ _ => closing_ne_written depth _ b) (fun a _ _ => closing_ne_written depth _ a)
      (List.cons.inj hbody).2
    exact ⟨rfl, closing_inj hclose⟩

/-- **Two elements with one rendering are one.** -/
theorem render_inj {e e' : Element} (he : e.WellFormed) (he' : e'.WellFormed)
    (h : e.render = e'.render) : e = e' := by
  have hlines := congrArg String.toList h
  rw [render, render, toList_intercalate, toList_intercalate, List.append_cancel_left_eq] at hlines
  rw [← List.append_nil (broken (lines 0 e)), ← List.append_nil (broken (lines 0 e'))] at hlines
  exact (written_append_inj he he' hlines).1

end Element

end Xmi

end Crowfoot
