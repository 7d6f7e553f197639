import Crowfoot.Proofs.Grammar
import Crowfoot.Proofs.LineNumbers
import Crowfoot.Proofs.Results
import Mathlib.Logic.Relation

/-!
# What is passed over

A line may end with a carriage return, begin and end with blanks, and say nothing at all. Of a text
only the lines that tell something matter, in their order: the reading takes them one by one, and
all others leave it as it is. So a text can be set in any way and have lines without content put
into it, inside of blocks too, and what is made from it changes in nothing but line numbers.
-/

namespace Crowfoot

open Relation Text

/-! ## Blanks at the ends -/

namespace Text

variable {gap : List Char}

theorem trim_blank_append (hgap : ∀ c ∈ gap, isBlank c = true) (cs : List Char) :
    trim (gap ++ cs) = trim cs := by
  unfold trim
  rw [List.dropWhile_append_of_pos hgap]

theorem trim_append_blank (hgap : ∀ c ∈ gap, isBlank c = true) (cs : List Char) :
    trim (cs ++ gap) = trim cs := by
  have hback : ∀ c ∈ gap.reverse, isBlank c = true := fun c hc => hgap c (List.mem_reverse.mp hc)
  unfold trim
  rw [List.dropWhile_append]
  split
  · rename_i hnil
    rw [List.isEmpty_iff.mp hnil, List.dropWhile_eq_nil_iff.mpr hgap]
  · rw [List.reverse_append, List.dropWhile_append_of_pos hback]

end Text

namespace Line

theorem ofText_congr {cs cs' : List Char} (h : trim cs = trim cs') : ofText cs = ofText cs' := by
  rw [← ofText_trim, h, ofText_trim]

/-! ## The lines that tell something -/

/-- The line adds something to what has been read. -/
def tells : Line → Bool
  | .blank | .separator | .unrecognized => false
  | .entityOpen _ | .entityClose | .attr _ | .relationship .. => true

/-- What the lines tell. -/
def toldBy (ls : List (List Char)) : List Line := (ls.map ofText).filter tells

theorem toldBy_cons (l : List Char) (ls : List (List Char)) :
    toldBy (l :: ls) = toldBy [l] ++ toldBy ls := by
  unfold toldBy
  rw [← List.filter_append]
  rfl

theorem toldBy_congr {l l' : List Char} (h : trim l = trim l') : toldBy [l] = toldBy [l'] := by
  unfold toldBy
  rw [List.map_singleton, ofText_congr h]
  rfl

theorem isBlank_return : ∀ c ∈ ['\r'], isBlank c = true :=
  List.forall_mem_singleton.mpr (by decide)

/-- The carriage return at the end of a line is a blank. -/
theorem toldBy_dropReturn (l : List Char) : toldBy [dropReturn l] = toldBy [l] := by
  refine toldBy_congr ?_
  unfold dropReturn
  split
  · rename_i h
    obtain ⟨front, rfl⟩ := List.getLast?_eq_some_iff.mp h
    rw [List.dropLast_concat, trim_append_blank isBlank_return]
  · rfl

theorem toldBy_linesAfter_nil (current : List Char) :
    toldBy (linesAfter current []) = toldBy [current.reverse] := by
  cases current with
  | nil => rfl
  | cons c cs => rfl

/-- What a text tells. -/
def told (cs : List Char) : List Line := toldBy (lines cs)

/-- **What two texts tell is told by the two with a line feed in between.** -/
theorem told_append_feed (before after : List Char) :
    told (before ++ '\n' :: after) = told before ++ told after := by
  -- a line may have begun already, so it is free in the induction
  suffices h : ∀ current, toldBy (linesAfter current (before ++ '\n' :: after)) =
      toldBy (linesAfter current before) ++ told after from h []
  induction before with
  | nil =>
    intro current
    rw [toldBy_linesAfter_nil, List.nil_append, linesAfter, toldBy_cons, toldBy_dropReturn]
    rfl
  | cons c rest ih =>
    intro current
    by_cases hc : c = '\n'
    · subst hc
      rw [List.cons_append, linesAfter, linesAfter, toldBy_cons, ih,
        toldBy_cons _ (linesAfter [] rest), List.append_assoc]
    · rw [List.cons_append, linesAfter.eq_3 _ _ _ hc, linesAfter.eq_3 _ _ _ hc]
      exact ih (c :: current)

/-- A text without a line feed is one line, or none if there is nothing in it. -/
theorem told_of_one_line {line : List Char} (h : '\n' ∉ line) : told line = toldBy [line] := by
  suffices hafter : ∀ current,
      toldBy (linesAfter current line) = toldBy [current.reverse ++ line] from hafter []
  induction line with
  | nil =>
    intro current
    rw [List.append_nil]
    exact toldBy_linesAfter_nil current
  | cons c rest ih =>
    intro current
    have hc : c ≠ '\n' := fun he => h (he ▸ List.mem_cons_self ..)
    have hrest : '\n' ∉ rest := fun hin => h (List.mem_cons_of_mem _ hin)
    rw [linesAfter.eq_3 _ _ _ hc, ih hrest]
    simp

/-! ## Noise -/

/-- A line begins behind this text. -/
def BeginsLine (before : List Char) : Prop := before = [] ∨ ∃ front, before = front ++ ['\n']

/-- A line ends before this text. -/
def EndsLine (after : List Char) : Prop :=
  after = [] ∨ (∃ rest, after = '\n' :: rest) ∨ ∃ rest, after = '\r' :: '\n' :: rest

/-- A line that says nothing. -/
structure IsNoise (line : List Char) : Prop where
  one_line : '\n' ∉ line
  kind : ofText line = .blank ∨ ofText line = .separator ∨ ofText line = .unrecognized

/-- The other way of ending a line. -/
def returned (text : List Char) : List Char :=
  text.flatMap fun c => if c = '\n' then ['\r', '\n'] else [c]

/-- A change to a text that does not change what it says. -/
inductive Noise : List Char → List Char → Prop
  /-- Each line feed gets a carriage return in front. -/
  | returns (text : List Char) : Noise text (returned text)
  /-- A line gets a gap in front. -/
  | indent {before gap after : List Char} (hstart : BeginsLine before) (hgap : IsGap gap) :
      Noise (before ++ after) (before ++ (gap ++ after))
  /-- A line gets a gap behind. -/
  | trail {before gap after : List Char} (hgap : IsGap gap) (hend : EndsLine after) :
      Noise (before ++ after) (before ++ (gap ++ after))
  /-- A line is put before others. -/
  | line {before line after : List Char} (hstart : BeginsLine before) (hline : IsNoise line) :
      Noise (before ++ after) (before ++ (line ++ '\n' :: after))
  /-- A line is put behind the text, where one could begin. -/
  | last {text line : List Char} (hstart : BeginsLine text) (hline : IsNoise line) :
      Noise text (text ++ line)
  /-- A line is put behind the text, the last line being ended. -/
  | next {text line : List Char} (hline : IsNoise line) : Noise text (text ++ '\n' :: line)

variable {before gap after line : List Char}

theorem IsNoise.told_eq (h : IsNoise line) : told line = [] := by
  rw [told_of_one_line h.one_line]
  unfold toldBy
  rcases h.kind with h | h | h <;> rw [List.map_singleton, h] <;> rfl

theorem told_append_of_beginsLine (h : BeginsLine before) (after : List Char) :
    told (before ++ after) = told before ++ told after := by
  rcases h with rfl | ⟨front, rfl⟩
  · rfl
  · rw [List.append_assoc, List.singleton_append, told_append_feed, told_append_feed]
    change _ = _ ++ [] ++ _
    rw [List.append_nil]

/-- The first line ends at the first line feed, and before it there is none. -/
theorem exists_first_line (text : List Char) :
    '\n' ∉ text ∨ ∃ line rest, text = line ++ '\n' :: rest ∧ '\n' ∉ line := by
  by_cases h : '\n' ∈ text
  · exact Or.inr (List.eq_append_cons_of_mem h)
  · exact Or.inl h

theorem told_gap_append (hgap : IsGap gap) (text : List Char) :
    told (gap ++ text) = told text := by
  have hblank : ∀ c ∈ gap, isBlank c = true := fun c hc => isBlank_of_isGap (hgap c hc)
  have hfeed : '\n' ∉ gap := fun hin => absurd (hgap _ hin) (by decide)
  rcases exists_first_line text with h | ⟨line, rest, rfl, h⟩
  · have h' : '\n' ∉ gap ++ text := by simp [hfeed, h]
    rw [told_of_one_line h', told_of_one_line h, toldBy_congr (trim_blank_append hblank text)]
  · have h' : '\n' ∉ gap ++ line := by simp [hfeed, h]
    rw [← List.append_assoc, told_append_feed, told_append_feed, told_of_one_line h',
      told_of_one_line h, toldBy_congr (trim_blank_append hblank line)]

/-- The last line begins behind the last line feed, and behind it there is none. -/
theorem exists_last_line (text : List Char) :
    '\n' ∉ text ∨ ∃ front line, text = front ++ '\n' :: line ∧ '\n' ∉ line := by
  rcases exists_first_line text.reverse with h | ⟨line, rest, htext, h⟩
  · exact Or.inl fun hin => h (List.mem_reverse.mpr hin)
  · refine Or.inr ⟨rest.reverse, line.reverse, ?_, fun hin => h (List.mem_reverse.mp hin)⟩
    rw [List.reverse_eq_iff.mp htext]
    simp

theorem told_append_blank (hblank : ∀ c ∈ gap, isBlank c = true) (hfeed : '\n' ∉ gap)
    (text : List Char) : told (text ++ gap) = told text := by
  rcases exists_last_line text with h | ⟨front, line, rfl, h⟩
  · have h' : '\n' ∉ text ++ gap := by simp [hfeed, h]
    rw [told_of_one_line h', told_of_one_line h, toldBy_congr (trim_append_blank hblank text)]
  · have h' : '\n' ∉ line ++ gap := by simp [hfeed, h]
    rw [List.append_assoc, List.cons_append, told_append_feed, told_append_feed,
      told_of_one_line h', told_of_one_line h, toldBy_congr (trim_append_blank hblank line)]

/-- Behind a line there is a gap, and then perhaps the carriage return. -/
theorem told_append_gap (hgap : IsGap gap) {after : List Char} (hend : EndsLine after) :
    told (before ++ (gap ++ after)) = told (before ++ after) := by
  have hblank : ∀ c ∈ gap, isBlank c = true := fun c hc => isBlank_of_isGap (hgap c hc)
  have hfeed : '\n' ∉ gap := fun hin => absurd (hgap _ hin) (by decide)
  rcases hend with rfl | ⟨rest, rfl⟩ | ⟨rest, rfl⟩
  · rw [List.append_nil, List.append_nil]
    exact told_append_blank hblank hfeed before
  · rw [← List.append_assoc, told_append_feed, told_append_blank hblank hfeed, told_append_feed]
  · -- the carriage return counts as blank, so the gap can be dropped with it and without it
    have hblank' : ∀ c ∈ gap ++ ['\r'], isBlank c = true := by
      intro c hc
      rcases List.mem_append.mp hc with hc | hc
      · exact hblank c hc
      · exact isBlank_return c hc
    have hfeed' : '\n' ∉ gap ++ ['\r'] := by simp [hfeed]
    have hleft : before ++ (gap ++ '\r' :: '\n' :: rest) =
        before ++ (gap ++ ['\r']) ++ '\n' :: rest := by simp
    have hright : before ++ '\r' :: '\n' :: rest = before ++ ['\r'] ++ '\n' :: rest := by simp
    rw [hleft, hright, told_append_feed, told_append_feed, told_append_blank hblank' hfeed',
      told_append_blank isBlank_return (by decide)]

theorem told_returned (text : List Char) : told (returned text) = told text := by
  suffices h : ∀ current, told (current ++ returned text) = told (current ++ text) from
    h []
  induction text with
  | nil => exact fun _ => rfl
  | cons c rest ih =>
    intro current
    by_cases hc : c = '\n'
    · -- at the end of a line: what is told before it does not see the carriage return
      have hreturned : returned (c :: rest) = '\r' :: '\n' :: returned rest := by
        simp [returned, hc]
      have hleft : current ++ '\r' :: '\n' :: returned rest =
          current ++ ['\r'] ++ '\n' :: returned rest := by simp
      rw [hreturned, hleft, told_append_feed, told_append_blank isBlank_return (by decide), hc,
        told_append_feed]
      exact congrArg (told current ++ ·) (ih [])
    · have hreturned : returned (c :: rest) = c :: returned rest := by simp [returned, hc]
      rw [hreturned, List.append_cons, ih, ← List.append_cons]

/-- **Noise tells nothing.** -/
theorem Noise.told_eq {text text' : List Char} (h : Noise text text') :
    told text' = told text := by
  cases h with
  | returns => exact told_returned text
  | @indent before gap after hstart hgap =>
    rw [told_append_of_beginsLine hstart, told_gap_append hgap, told_append_of_beginsLine hstart]
  | trail hgap hend => exact told_append_gap hgap hend
  | @line before line after hstart hline =>
    rw [told_append_of_beginsLine hstart, told_append_feed, hline.told_eq, List.nil_append,
      told_append_of_beginsLine hstart]
  | last hstart hline =>
    rw [told_append_of_beginsLine hstart, hline.told_eq, List.append_nil]
  | next hline => rw [told_append_feed, hline.told_eq, List.append_nil]

theorem told_of_noises {text text' : List Char} (h : ReflTransGen Noise text text') :
    told text' = told text := by
  induction h with
  | refl => rfl
  | tail _ hnoise ih => exact hnoise.told_eq.trans ih

end Line

/-! ## What is read -/

namespace Reading

/-- The reading without the numbers of the lines. -/
def unnumbered (r : Reading) : Reading :=
  { r with relationships := r.relationships.map Relationship.unnumbered }

theorem closeBlock_unnumbered (r : Reading) :
    r.unnumbered.closeBlock = r.closeBlock.unnumbered := by
  obtain ⟨entities, relationships, block⟩ := r
  cases block with
  | none => rfl
  | some e => rfl

/-- A line counts in the same way under any number. -/
theorem step_unnumbered (r : Reading) (number : Nat) (line : Line) :
    r.unnumbered.step 0 line = (r.step number line).unnumbered := by
  cases line with
  | entityOpen name => simp only [step, closeBlock_unnumbered]; rfl
  | entityClose => exact closeBlock_unnumbered r
  | attr a => rfl
  | relationship left connector right label => simp [step, unnumbered, Relationship.unnumbered]
  | blank => rfl
  | separator => rfl
  | unrecognized => rfl

theorem step_of_not_tells (r : Reading) (number : Nat) {line : Line} (h : line.tells = false) :
    r.step number line = r := by
  cases line with
  | blank => rfl
  | separator => rfl
  | unrecognized => rfl
  | entityOpen name => exact absurd h (by simp [Line.tells])
  | entityClose => exact absurd h (by simp [Line.tells])
  | attr a => exact absurd h (by simp [Line.tells])
  | relationship left connector right label => exact absurd h (by simp [Line.tells])

/-- **Without numbers, what has been read is what the lines tell.** -/
theorem steps_unnumbered (r : Reading) (number : Nat) (ls : List Line) :
    (r.steps number ls).unnumbered = (ls.filter Line.tells).foldl (·.step 0 ·) r.unnumbered := by
  induction ls generalizing r number with
  | nil => rfl
  | cons line rest ih =>
    rw [steps, ih, ← step_unnumbered]
    cases h : line.tells with
    | true => rw [List.filter_cons_of_pos h, List.foldl_cons]
    | false => rw [List.filter_cons_of_neg (by simp [h]), step_of_not_tells _ _ h]

end Reading

/-- Texts that tell the same describe one diagram, up to line numbers. -/
theorem Diagram.ofText_unnumbered_congr {text text' : String}
    (h : Line.told text.toList = Line.told text'.toList) :
    (ofText text).unnumbered = (ofText text').unnumbered := by
  have hread : ∀ r : Reading, r.diagram.unnumbered = r.unnumbered.diagram := by
    intro r
    unfold Reading.diagram
    rw [Reading.closeBlock_unnumbered]
    rfl
  unfold ofText
  rw [hread, hread, Reading.steps_unnumbered, Reading.steps_unnumbered]
  exact congrArg (fun ls => (List.foldl (·.step 0 ·) Reading.start.unnumbered ls).diagram) h

/-! ## What is made -/

namespace Plan

/-- Two plans for the same artifacts. -/
structure SameArtifacts (p p' : Plan) : Prop where
  entities : p.schema.entities = p'.schema.entities
  foreignKeys : p.schema.foreignKeys = p'.schema.foreignKeys
  /-- The join tables have the same names, columns and entities, in the same order. -/
  joinTables :
    p.schema.joinTables.map JoinTable.unnumbered = p'.schema.joinTables.map JoinTable.unnumbered
  /-- The entities come in the same order, and the same references close a cycle. -/
  order : p.order = p'.order
  sql : p.sql = p'.sql
  xmi : ∀ name, p.xmi name = p'.xmi name
  /-- The data are drawn in the same way, so any generator gives the same. -/
  dataset : ∀ {γ : Type} [Generator γ] (source : ValueSource γ) (rows : Nat),
    p.dataset source rows = p'.dataset source rows
  csvFiles : ∀ {γ : Type} [Generator γ] (source : ValueSource γ) (rows : Nat),
    p.csvFiles source rows = p'.csvFiles source rows

theorem sameArtifacts_of_unnumbered {p p' : Plan} (h : p.unnumbered = p'.unnumbered) :
    p.SameArtifacts p' where
  entities := congrArg (·.schema.entities) h
  foreignKeys := congrArg (·.schema.foreignKeys) h
  joinTables := congrArg (·.schema.joinTables) h
  order := congrArg (·.order) h
  sql := by rw [← sql_unnumbered, h, sql_unnumbered]
  xmi name := by rw [← xmi_unnumbered, h, xmi_unnumbered]
  dataset source rows := by rw [← dataset_unnumbered, h, dataset_unnumbered]
  csvFiles source rows := by rw [← csvFiles_unnumbered, h, csvFiles_unnumbered]

/--
**Noise changes no artifact.** However a text is changed by ends of lines, gaps around lines and
lines that say nothing, it has a plan in the same cases, the plan is for the same artifacts, and
an error differs in nothing but the line that it names.
-/
theorem ofText_noise {text text' : String}
    (h : ReflTransGen Line.Noise text.toList text'.toList) (mode : Undeclared) :
    (∃ p p', ofText mode text = .ok p ∧ ofText mode text' = .ok p' ∧ p.SameArtifacts p') ∨
      ∃ e e', ofText mode text = .error e ∧ ofText mode text' = .error e' ∧
        e.unnumbered = e'.unnumbered := by
  -- up to the numbers of lines both texts tell the same, and so do their plans
  have htold := (Line.told_of_noises h).symm
  have hdiagram := congrArg (ofDiagram mode) (Diagram.ofText_unnumbered_congr htold)
  rw [ofDiagram_unnumbered, ofDiagram_unnumbered] at hdiagram
  change unnumberedResult (ofText mode text) = unnumberedResult (ofText mode text') at hdiagram
  cases htext : ofText mode text with
  | error e =>
    cases htext' : ofText mode text' with
    | error e' =>
      rw [htext, htext'] at hdiagram
      exact Or.inr ⟨e, e', rfl, rfl, Except.error.inj hdiagram⟩
    | ok p' =>
      rw [htext, htext'] at hdiagram
      exact absurd hdiagram nofun
  | ok p =>
    cases htext' : ofText mode text' with
    | error e' =>
      rw [htext, htext'] at hdiagram
      exact absurd hdiagram nofun
    | ok p' =>
      rw [htext, htext'] at hdiagram
      exact Or.inl ⟨p, p', rfl, rfl, sameArtifacts_of_unnumbered (Except.ok.inj hdiagram)⟩

/-- An entity and its pairs with another one. -/
def quietText : String := "entity A \x7b\nid : number\n\x7d\nA \x7do--o\x7b B"

/-- The same with other ends of lines, a line in the block that is not known, a gap in front of the
attribute, and a separator. -/
def noisyText : String :=
  "entity A \x7b\r\n?\n\tid : number\r\n\x7d\r\nA \x7do--o\x7b B\n--"

/-- The plans are for the same artifacts, and the table for the pairs is one of another line. -/
theorem ofText_noise_pair :
    ReflTransGen Line.Noise quietText.toList noisyText.toList ∧
      ∃ p p', ofText .synthesize quietText = .ok p ∧ ofText .synthesize noisyText = .ok p' ∧
        p.schema.joinTables.map JoinTable.line = [4] ∧
        p'.schema.joinTables.map JoinTable.line = [5] ∧ p.SameArtifacts p' := by
  have hnoise : ReflTransGen Line.Noise quietText.toList noisyText.toList := by
    generalize hopened : "entity A \x7b\r\n".toList = opened
    generalize hbody : "id : number\r\n\x7d\r\nA \x7do--o\x7b B".toList = body
    have hreturned : Line.Noise quietText.toList (opened ++ body) := by
      rw [show opened ++ body = Line.returned quietText.toList by
        rw [← hopened, ← hbody]; decide +kernel]
      exact .returns _
    have hunknown : Line.Noise (opened ++ body) (opened ++ (['?'] ++ '\n' :: body)) :=
      .line (Or.inr ⟨"entity A \x7b\r".toList, by rw [← hopened]; decide +kernel⟩)
        ⟨by decide, by decide +kernel⟩
    have hindented : Line.Noise (opened ++ (['?'] ++ '\n' :: body))
        (opened ++ ['?', '\n'] ++ (['\t'] ++ body)) := by
      rw [show opened ++ (['?'] ++ '\n' :: body) = opened ++ ['?', '\n'] ++ body by simp]
      refine .indent (Or.inr ⟨opened ++ ['?'], by simp⟩) fun c hc => ?_
      rw [List.mem_singleton.mp hc]
      decide
    have hseparated :
        Line.Noise (opened ++ ['?', '\n'] ++ (['\t'] ++ body)) noisyText.toList := by
      rw [show noisyText.toList =
          opened ++ ['?', '\n'] ++ (['\t'] ++ body) ++ '\n' :: ['-', '-'] by
        rw [← hopened, ← hbody]; decide +kernel]
      exact .next ⟨by decide, by decide +kernel⟩
    exact .head hreturned (.head hunknown (.head hindented (.single hseparated)))
  have heval : (ofText .synthesize quietText).toOption.any
      (fun p => p.schema.joinTables.map JoinTable.line = [4]) = true := by
    decide +kernel
  have heval' : (ofText .synthesize noisyText).toOption.any
      (fun p => p.schema.joinTables.map JoinTable.line = [5]) = true := by
    decide +kernel
  obtain ⟨p, hp, hline⟩ := exists_ok_of_any heval
  obtain ⟨p', hp', hline'⟩ := exists_ok_of_any heval'
  rcases ofText_noise hnoise .synthesize with ⟨q, q', hq, hq', hsame⟩ | ⟨e, _, he, _⟩
  · obtain rfl := Except.ok.inj (hp.symm.trans hq)
    obtain rfl := Except.ok.inj (hp'.symm.trans hq')
    exact ⟨hnoise, p, p', hp, hp', of_decide_eq_true hline, of_decide_eq_true hline', hsame⟩
  · exact absurd (hp.symm.trans he) nofun

end Plan

end Crowfoot
