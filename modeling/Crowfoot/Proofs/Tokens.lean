import Crowfoot.Proofs.Lexing
import Crowfoot.Sql.Reading

/-!
# The tokens of a text

A text that is put together of pieces has the tokens of the pieces, where the reader does not take
the end of one and the beginning of the next for one token. It never does behind a blank or a
parenthesis, nor in front of one. So what is said of a piece holds wherever the piece stands, and
texts are read piece by piece.

Apart from blanks no character is lost: the tokens of a text without blanks are the text.
-/

namespace Crowfoot.Sql

open Text

/-! ## Runs -/

namespace Lexer

variable {s s' : Lexer} {c : Char} {cs : List Char}

theorem run_cons (s : Lexer) (c : Char) (cs : List Char) :
    s.run (c :: cs) = (s.step c).bind (·.run cs) := by
  unfold run
  rw [List.foldlM_cons]
  rfl

theorem run_append (s : Lexer) (cs ds : List Char) :
    s.run (cs ++ ds) = (s.run cs).bind (·.run ds) := by
  unfold run
  rw [List.foldlM_append]
  rfl

/-- The state with tokens in front of those that have been read. -/
def behind (ts : List Token) (s : Lexer) : Lexer := { s with tokens := ts ++ s.tokens }

theorem closed_behind (ts : List Token) (s : Lexer) :
    (s.behind ts).closed = s.closed.behind ts := by
  simp [closed, behind]

theorem closed_closed (s : Lexer) : s.closed.closed = s.closed := by
  simp [closed, Place.tokens]

theorem fresh_closed (s : Lexer) (c : Char) : s.closed.fresh c = s.fresh c := by
  simp only [fresh, closed_closed]

theorem fresh_behind (ts : List Token) (s : Lexer) (c : Char) :
    (s.behind ts).fresh c = (s.fresh c).map (behind ts) := by
  simp only [fresh, closed_behind]
  repeat' split
  all_goals rfl

theorem step_behind (ts : List Token) (s : Lexer) (c : Char) :
    (s.behind ts).step c = (s.step c).map (behind ts) := by
  obtain ⟨tokens, place⟩ := s
  -- where a token ends, the character begins the next one, and that looks at no token before it
  have hfresh := fresh_behind ts ⟨tokens, place⟩ c
  cases place with
  | between => exact hfresh
  | word cs =>
    simp only [step, behind] at hfresh ⊢
    split
    · rfl
    · exact hfresh
  | sign d =>
    simp only [step, behind] at hfresh ⊢
    split
    · rfl
    · split
      · rfl
      · exact hfresh
  | quoted quote cs =>
    simp only [step, behind]
    split
    · exact congrArg some (closed_behind ts ⟨tokens, .quoted quote cs⟩)
    · split <;> rfl
  | comment cs =>
    simp only [step, behind]
    split
    · exact congrArg some (closed_behind ts ⟨tokens, .comment cs⟩)
    · rfl

/-- **What has been read does not matter to what comes.** -/
theorem run_behind (ts : List Token) (s : Lexer) (cs : List Char) :
    (s.behind ts).run cs = (s.run cs).map (behind ts) := by
  induction cs generalizing s with
  | nil => rfl
  | cons c cs ih =>
    rw [run_cons, run_cons, step_behind]
    cases s.step c with
    | none => rfl
    | some s' => exact ih s'

end Lexer

/-! ## Where tokens end -/

/-- The token is at its end, if what comes is not one of its kind or whatever it is. -/
def Place.ends (anyway : Bool) : Place → Bool
  | between => true
  | word _ => !anyway
  | sign c => !anyway || c ≠ '-' && c ≠ '/'
  | quoted _ _ | comment _ => false

/-- The character begins something new behind every token that is at its end. -/
def isBreak (c : Char) : Bool := !Line.isNameChar c && c ≠ '-' && c ≠ '*'

namespace Lexer

variable {s : Lexer} {c : Char} {anyway : Bool}

/-- **Behind a token that is at its end a new one begins.** -/
theorem step_of_ends (hends : s.place.ends anyway = true) (hc : anyway = true ∨ isBreak c = true) :
    s.step c = s.fresh c := by
  obtain ⟨tokens, place⟩ := s
  cases place with
  | between => rfl
  | word cs =>
    have hbreak : isBreak c = true := hc.resolve_left (by simpa [Place.ends] using hends)
    have hname : Line.isNameChar c = false := by
      simp only [isBreak, Bool.and_eq_true, Bool.not_eq_true'] at hbreak
      exact hbreak.1.1
    simp [step, hname]
  | sign d =>
    -- two signs can be one token, but either the sign or the character is none that begins such a
    -- token
    have hboth : ¬ (d = '-' ∧ c = '-') ∧ ¬ (d = '/' ∧ c = '*') := by
      rcases hc with rfl | hbreak
      · simp only [Place.ends, Bool.not_true, Bool.false_or, Bool.and_eq_true,
          decide_eq_true_eq] at hends
        exact ⟨fun h => hends.1 h.1, fun h => hends.2 h.1⟩
      · simp only [isBreak, Bool.and_eq_true, decide_eq_true_eq] at hbreak
        exact ⟨fun h => hbreak.1.2 h.2, fun h => hbreak.2 h.2⟩
    simp [step, hboth.1, hboth.2]
  | quoted quote cs => exact absurd hends (by simp [Place.ends])
  | comment cs => exact absurd hends (by simp [Place.ends])

end Lexer

/--
The text is read as those tokens. If `anyway`, the last one ends there whatever comes, and else
only if a character comes that begins something new.
-/
def Lexes (anyway : Bool) (text : String) (ts : List Token) : Prop :=
  ∃ s, Lexer.start.run text.toList = some s ∧ s.place.ends anyway = true ∧ s.closed.tokens = ts

instance (anyway : Bool) (text : String) (ts : List Token) : Decidable (Lexes anyway text ts) :=
  decidable_of_iff
    ((Lexer.start.run text.toList).any fun s =>
      s.place.ends anyway && decide (s.closed.tokens = ts)) <| by
    simp [Lexes, Option.any_eq_true]

/-- The text begins with a character that begins something new. -/
def Begins (text : String) : Prop := ∃ c, text.toList.head? = some c ∧ isBreak c = true

instance (text : String) : Decidable (Begins text) :=
  decidable_of_iff (text.toList.head?.any isBreak) <| by
    simp [Begins, Option.any_eq_true]

namespace Lexes

variable {anyway anyway' : Bool} {text text' : String} {ts us : List Token}

/-- **Pieces of text have the tokens of the pieces.** -/
theorem append (h : Lexes anyway text ts) (h' : Lexes anyway' text' us)
    (hend : anyway = true ∨ Begins text') : Lexes anyway' (text ++ text') (ts ++ us) := by
  obtain ⟨s, hrun, hends, rfl⟩ := h
  obtain ⟨s', hrun', hends', rfl⟩ := h'
  cases hcs : text'.toList with
  | nil =>
    rw [hcs] at hrun'
    obtain rfl := Option.some.inj hrun'
    have hany : anyway = true := by
      refine hend.resolve_right fun hbegins => ?_
      obtain ⟨c, hc, _⟩ := hbegins
      rw [hcs] at hc
      exact absurd hc nofun
    refine ⟨s, ?_, ?_, ?_⟩
    · rw [String.toList_append, hcs, List.append_nil, hrun]
    · rw [hany] at hends
      cases anyway' with
      | true => exact hends
      | false =>
        -- a token that ends anyway ends
        cases hplace : s.place <;> simp_all [Place.ends]
    · simp [Lexer.start, Lexer.closed, Place.tokens]
  | cons c cs =>
    have hc : anyway = true ∨ isBreak c = true := by
      refine hend.imp_right fun hbegins => ?_
      obtain ⟨d, hd, hbreak⟩ := hbegins
      rw [hcs] at hd
      rw [Option.some.inj hd]
      exact hbreak
    -- the new piece is read like at the start, with the tokens of the old one in front
    have hclosed : s.closed = Lexer.start.behind s.closed.tokens := by
      simp [Lexer.start, Lexer.behind, Lexer.closed]
    have hfresh : s.fresh c = (Lexer.start.behind s.closed.tokens).step c :=
      (Lexer.fresh_closed s c).symm.trans (congrArg (Lexer.fresh · c) hclosed)
    have hnext : s.run (c :: cs) = some (s'.behind s.closed.tokens) := by
      rw [Lexer.run_cons, Lexer.step_of_ends hends hc, hfresh, ← Lexer.run_cons, Lexer.run_behind,
        ← hcs, hrun']
      rfl
    refine ⟨s'.behind s.closed.tokens, ?_, hends', ?_⟩
    · rw [String.toList_append, Lexer.run_append, hrun, hcs]
      exact hnext
    · rw [Lexer.closed_behind]
      rfl

theorem empty (anyway : Bool) : Lexes anyway "" [] := by
  cases anyway <;> decide

/-- The tokens are those of the text. -/
theorem tokens?_eq (h : Lexes anyway text ts) : tokens? text = some ts := by
  obtain ⟨s, hrun, hends, rfl⟩ := h
  unfold tokens?
  rw [hrun]
  obtain ⟨tokens, place⟩ := s
  cases place with
  | quoted quote cs => exact absurd hends (by simp [Place.ends])
  | _ => rfl

/-- A text that does not end in a comment is read as its tokens. -/
theorem of_tokens? (h : tokens? text = some ts) (hcomment : ∀ cs, .comment cs ∉ ts) :
    Lexes false text ts := by
  obtain ⟨s, hrun, hfinish⟩ := Option.bind_eq_some_iff.mp h
  obtain ⟨tokens, place⟩ := s
  refine ⟨_, hrun, ?_, ?_⟩
  · cases place with
    | comment cs =>
      rw [← Option.some.inj hfinish] at hcomment
      exact absurd (List.mem_append_right _ (List.mem_singleton_self _)) (hcomment _)
    | quoted quote cs => exact absurd hfinish nofun
    | _ => rfl
  · cases place with
    | quoted quote cs => exact absurd hfinish nofun
    | _ => exact Option.some.inj hfinish

end Lexes

/-! ## Words -/

namespace Lexer

theorem run_word {cs : List Char} (hcs : ∀ c ∈ cs, Line.isNameChar c = true) (tokens : List Token)
    (front : List Char) : run ⟨tokens, .word front⟩ cs = some ⟨tokens, .word (front ++ cs)⟩ := by
  induction cs generalizing front with
  | nil => rw [List.append_nil]; rfl
  | cons c cs ih =>
    obtain ⟨hc, hrest⟩ := List.forall_mem_cons.mp hcs
    have hstep : step ⟨tokens, .word front⟩ c = some ⟨tokens, .word (front ++ [c])⟩ := by
      simp [step, hc]
    rw [run_cons, hstep, Option.bind_some, ih hrest, List.append_assoc, List.singleton_append]

end Lexer

/-- **A name is one word.** -/
theorem Lexes.word {name : String} (h : IsName name) : Lexes false name [.word name] := by
  obtain ⟨c, cs, hcs, hc⟩ := h.exists_cons
  have hrest : ∀ d ∈ cs, Line.isNameChar d = true := fun d hd =>
    h.2 d (hcs ▸ List.mem_cons_of_mem c hd)
  have hstep : Lexer.start.step c = some ⟨[], .word [c]⟩ := by
    simp [Lexer.start, Lexer.step, Lexer.fresh, Line.not_isBlank_of_isNameChar hc, hc, Lexer.closed,
      Place.tokens]
  refine ⟨⟨[], .word (c :: cs)⟩, ?_, rfl, ?_⟩
  · rw [hcs, Lexer.run_cons, hstep, Option.bind_some, Lexer.run_word hrest]
    rfl
  · rw [← hcs]
    simp [Lexer.closed, Place.tokens]

/-! ## What is written -/

/-- The characters of a place. -/
def Place.written : Place → List Char
  | between => []
  | word cs => cs
  | sign c => [c]
  | quoted quote cs => quote :: cs
  | comment cs => '-' :: '-' :: cs

namespace Lexer

/-- The characters of the tokens that have been read, and of the one that has begun. -/
def written (s : Lexer) : List Char := s.tokens.flatMap Token.written ++ s.place.written

variable {s s' : Lexer} {c : Char}

/-- A place that is not in quotes is written like its token. -/
theorem written_closed (h : ∀ quote cs, s.place ≠ .quoted quote cs) :
    s.closed.written = s.written := by
  obtain ⟨tokens, place⟩ := s
  cases place with
  | quoted quote cs => exact absurd rfl (h quote cs)
  | between => simp [written, closed, Place.tokens, Place.written]
  | word cs => simp [written, closed, Place.tokens, Place.written, Token.written]
  | sign c => simp [written, closed, Place.tokens, Place.written, Token.written]
  | comment cs => simp [written, closed, Place.tokens, Place.written, Token.written]

theorem written_fresh (h : s.fresh c = some s') (hc : isBlank c = false)
    (hplace : ∀ quote cs, s.place ≠ .quoted quote cs) : s'.written = s.written ++ [c] := by
  -- closing a token changes how it is kept and not what was written
  have hclosed := written_closed hplace
  have hbetween : s.closed.written = s.closed.tokens.flatMap Token.written := by
    simp [written, closed, Place.written]
  rw [← hclosed, hbetween]
  unfold fresh at h
  rw [if_neg (by simp [hc])] at h
  split at h
  · obtain rfl := Option.some.inj h
    rfl
  · split at h
    · obtain rfl := Option.some.inj h
      rfl
    · split at h
      · exact absurd h nofun
      · obtain rfl := Option.some.inj h
        rfl

/-- **No character but a blank is lost.** -/
theorem written_step (h : s.step c = some s') (hc : isBlank c = false) :
    s'.written = s.written ++ [c] := by
  obtain ⟨tokens, place⟩ := s
  cases place with
  | between => exact written_fresh h hc nofun
  | word cs =>
    simp only [step] at h
    split at h
    · obtain rfl := Option.some.inj h
      simp [written, Place.written]
    · exact written_fresh h hc nofun
  | sign d =>
    simp only [step] at h
    split at h
    · rename_i hdashes
      simp only [Bool.and_eq_true, decide_eq_true_eq] at hdashes
      obtain ⟨rfl, rfl⟩ := hdashes
      obtain rfl := Option.some.inj h
      simp [written, Place.written]
    · split at h
      · exact absurd h nofun
      · exact written_fresh h hc nofun
  | quoted quote cs =>
    simp only [step] at h
    split at h
    · rename_i hquote
      obtain rfl := Option.some.inj h
      simp [written, closed, Place.tokens, Place.written, Token.written, hquote]
    · split at h
      · exact absurd h nofun
      · obtain rfl := Option.some.inj h
        simp [written, Place.written]
  | comment cs =>
    simp only [step] at h
    split at h
    · -- a comment ends with the line feed, which is blank
      rename_i hfeed
      rw [hfeed] at hc
      exact absurd hc (by decide)
    · obtain rfl := Option.some.inj h
      simp [written, Place.written]

theorem written_run {cs : List Char} (h : s.run cs = some s') (hcs : ∀ c ∈ cs, isBlank c = false) :
    s'.written = s.written ++ cs := by
  induction cs generalizing s with
  | nil =>
    obtain rfl := Option.some.inj h
    rw [List.append_nil]
  | cons c cs ih =>
    obtain ⟨hc, hrest⟩ := List.forall_mem_cons.mp hcs
    rw [run_cons] at h
    obtain ⟨s₁, hstep, hrun⟩ := Option.bind_eq_some_iff.mp h
    rw [ih hrun hrest, written_step hstep hc, List.append_assoc, List.singleton_append]

end Lexer

/-- **The tokens of a text without blanks are the text.** -/
theorem Lexes.written {anyway : Bool} {text : String} {ts : List Token} (h : Lexes anyway text ts)
    (hblank : ∀ c ∈ text.toList, isBlank c = false) : ts.flatMap Token.written = text.toList := by
  obtain ⟨s, hrun, hends, rfl⟩ := h
  have hplace : ∀ quote cs, s.place ≠ .quoted quote cs := by
    intro quote cs he
    rw [he] at hends
    exact absurd hends nofun
  have hwritten := Lexer.written_closed hplace
  rw [Lexer.written_run hrun hblank] at hwritten
  simpa [Lexer.written, Lexer.start, Lexer.closed, Place.written] using hwritten

end Crowfoot.Sql
