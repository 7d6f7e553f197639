import Crowfoot.Proofs.Lexing
import Crowfoot.Vocabulary.Abbreviation

/-!
# What an abbreviation is made of

The words of a name are its longest runs of characters that separate no words. A name of several
words is abbreviated through its words, so nothing between them matters. A name of one word is cut
as it stands: what separates words takes part in the cut and stays in the result, unless the word
comes first and either fills the cut or is all there is.

Upper case does not turn any character into one that separates words or the other way round. So the
characters of an abbreviation separate words exactly where those of the cut do.
-/

namespace Crowfoot

open Text

/-! ## Words -/

/--
A text is made of those words, with what separates words before, between and after them. A word
is not empty, nothing in it separates words, and it ends where the text ends or something does.
-/
inductive HasWords : List Char → List (List Char) → Prop
  | none {gap : List Char} (hgap : ∀ c ∈ gap, isWordBreak c = true) : HasWords gap []
  | cons {gap w rest : List Char} {ws : List (List Char)} (hgap : ∀ c ∈ gap, isWordBreak c = true)
      (hne : w ≠ []) (hw : ∀ c ∈ w, isWordBreak c = false)
      (hstop : ∀ c, rest.head? = some c → isWordBreak c = true) (hrest : HasWords rest ws) :
      HasWords (gap ++ w ++ rest) (w :: ws)

variable {c : Char} {cs w : List Char} {ws : List (List Char)}

/-- Words are found on both sides of a character that separates words. -/
theorem wordsOf_append_cons (front back : List Char) (hc : isWordBreak c = true) :
    wordsOf (front ++ c :: back) = wordsOf front ++ wordsOf back := by
  unfold wordsOf
  rw [List.splitOnP_append_cons front back hc, List.filter_append]

theorem wordsOf_gap_append {gap : List Char} (hgap : ∀ c ∈ gap, isWordBreak c = true)
    (cs : List Char) : wordsOf (gap ++ cs) = wordsOf cs := by
  induction gap with
  | nil => rfl
  | cons c gap ih =>
    obtain ⟨hc, hgap⟩ := List.forall_mem_cons.mp hgap
    have hfirst := wordsOf_append_cons [] (gap ++ cs) hc
    rw [List.nil_append] at hfirst
    rw [List.cons_append, hfirst, ih hgap]
    rfl

theorem wordsOf_word (hne : w ≠ []) (hw : ∀ c ∈ w, isWordBreak c = false) : wordsOf w = [w] := by
  unfold wordsOf
  rw [List.splitOnP_eq_singleton hw]
  simp [hne]

/-- A word that stands in front is the first of the words. -/
theorem wordsOf_word_append (hne : w ≠ []) (hw : ∀ c ∈ w, isWordBreak c = false)
    {rest : List Char} (hstop : ∀ c, rest.head? = some c → isWordBreak c = true) :
    wordsOf (w ++ rest) = w :: wordsOf rest := by
  cases rest with
  | nil =>
    rw [List.append_nil, wordsOf_word hne hw]
    rfl
  | cons c rest =>
    have hc := hstop c rfl
    have hrest := wordsOf_append_cons [] rest hc
    rw [List.nil_append] at hrest
    rw [wordsOf_append_cons w rest hc, hrest, wordsOf_word hne hw]
    rfl

theorem wordsOf_of_hasWords (h : HasWords cs ws) : wordsOf cs = ws := by
  induction h with
  | none hgap =>
    have hnil := wordsOf_gap_append hgap []
    rw [List.append_nil] at hnil
    rw [hnil]
    rfl
  | cons hgap hne hw hstop _ ih =>
    rw [List.append_assoc, wordsOf_gap_append hgap, wordsOf_word_append hne hw hstop, ih]

/-- A character in front separates words, goes on with the first word, or is a word of its own. -/
theorem exists_hasWords (cs : List Char) : ∃ ws, HasWords cs ws := by
  induction cs with
  | nil => exact ⟨[], .none (List.forall_mem_nil _)⟩
  | cons c cs ih =>
    obtain ⟨ws, h⟩ := ih
    cases hc : isWordBreak c with
    | true =>
      -- what separates words only makes the gap in front longer
      cases h with
      | none hgap => exact ⟨_, .none (List.forall_mem_cons.mpr ⟨hc, hgap⟩)⟩
      | cons hgap hne hw hstop hrest =>
        exact ⟨_, .cons (List.forall_mem_cons.mpr ⟨hc, hgap⟩) hne hw hstop hrest⟩
    | false =>
      -- the character is in no word yet: it joins the first word if no gap is between them
      have hgap : ∀ d ∈ ([] : List Char), isWordBreak d = true := List.forall_mem_nil _
      have hone : ∀ d ∈ [c], isWordBreak d = false := List.forall_mem_singleton.mpr hc
      cases hcs : h with
      | none hall =>
        refine ⟨_, .cons hgap (List.cons_ne_nil c []) hone (fun d hd => ?_) h⟩
        exact hall d (List.mem_of_mem_head? hd)
      | @cons gap w rest ws hfront hne hw hstop hrest =>
        cases gap with
        | nil =>
          have hword : ∀ d ∈ c :: w, isWordBreak d = false := List.forall_mem_cons.mpr ⟨hc, hw⟩
          exact ⟨_, .cons hgap (List.cons_ne_nil c w) hword hstop hrest⟩
        | cons d gap =>
          refine ⟨_, .cons hgap (List.cons_ne_nil c []) hone (fun d' hd => ?_) h⟩
          exact hfront d' (Option.some.inj hd ▸ List.mem_cons_self ..)

/-- **Every text has words in exactly one way.** -/
theorem hasWords_iff : HasWords cs ws ↔ wordsOf cs = ws := by
  constructor
  · exact wordsOf_of_hasWords
  · rintro rfl
    obtain ⟨ws, h⟩ := exists_hasWords cs
    exact wordsOf_of_hasWords h ▸ h

/-- Nothing in a word separates words. -/
theorem HasWords.not_isWordBreak (h : HasWords cs ws) (hw : w ∈ ws) (hc : c ∈ w) :
    isWordBreak c = false := by
  induction h with
  | none _ => exact absurd hw (List.not_mem_nil)
  | cons _ _ hfirst _ _ ih =>
    rcases List.mem_cons.mp hw with rfl | hw
    · exact hfirst c hc
    · exact ih hw

/-- Without words there is nothing but what separates words. -/
theorem HasWords.isWordBreak (h : HasWords cs []) (hc : c ∈ cs) : isWordBreak c = true := by
  cases h with
  | none hgap => exact hgap c hc

/-! ## Upper case -/

/-- The codes of the characters that separate words. -/
def breakCodes : List Nat := blankRanges.flatMap CodeRange.codes ++ ['_'.toNat, '-'.toNat]

theorem mem_breakCodes (h : isWordBreak c = true) : c.toNat ∈ breakCodes := by
  unfold breakCodes
  rw [List.mem_append]
  rcases (Bool.or_eq_true _ _).mp h with h | h
  · rcases (Bool.or_eq_true _ _).mp h with h | h
    · exact Or.inl (CodeRange.mem_codes_of_covers h)
    · rw [of_decide_eq_true h]
      exact Or.inr (by decide)
  · rw [of_decide_eq_true h]
    exact Or.inr (by decide)

/-- What separates words has no upper case. -/
theorem upperChar_of_isWordBreak (h : isWordBreak c = true) : upperChar c = [c] := by
  have hall : ∀ code ∈ breakCodes, upperChar (Char.ofNat code) = [Char.ofNat code] := by
    decide +kernel
  have hc := hall c.toNat (mem_breakCodes h)
  rw [Char.ofNat_toNat] at hc
  exact hc

/-- A code between those that separate words is the code of a character that does not. -/
theorem not_isWordBreak_ofNat {code : Nat} (h : code ∉ breakCodes) :
    isWordBreak (Char.ofNat code) = false := by
  refine Bool.eq_false_iff.mpr fun hbreak => ?_
  have hmem := mem_breakCodes hbreak
  unfold Char.ofNat at hmem
  by_cases hvalid : code.isValidChar
  · rw [dif_pos hvalid] at hmem
    exact h hmem
  · rw [dif_neg hvalid] at hmem
    exact absurd hmem (by decide)

/-- **Upper case makes nothing that separates words.** -/
theorem not_isWordBreak_of_mem_upperChar {d : Char} (hc : isWordBreak c = false)
    (hd : d ∈ upperChar c) : isWordBreak d = false := by
  -- both tables are finite, so what they map to is looked through once
  have hlong : ∀ x ∈ longCases, ∀ code ∈ x.2, code ∉ breakCodes := by decide +kernel
  have hruns : ∀ r ∈ caseRuns, ∀ code ∈ breakCodes,
      code < r.upper ∨ r.upper + (r.last - r.first) < code := by
    decide +kernel
  unfold upperChar at hd
  split at hd
  · rename_i codes hcodes
    obtain ⟨code, hcode, rfl⟩ := List.mem_map.mp hd
    obtain ⟨before, after, hcases, _⟩ := List.lookup_eq_some_iff.mp hcodes
    have hmem : (c.toNat, codes) ∈ longCases := by
      rw [hcases]
      exact List.mem_append_right _ (List.mem_cons_self ..)
    exact not_isWordBreak_ofNat (hlong _ hmem code hcode)
  · -- a run maps to a run, and none of those has a code that separates words
    split at hd
    · rename_i code hcode
      rw [List.mem_singleton.mp hd]
      obtain ⟨r, hr, hmap⟩ := List.exists_of_findSome?_eq_some hcode
      refine not_isWordBreak_ofNat fun hbreak => ?_
      have hrange := hruns r hr code hbreak
      unfold CaseRun.map? at hmap
      split at hmap
      · rename_i hin
        have hcode := Option.some.inj hmap
        simp only [Bool.and_eq_true, decide_eq_true_eq] at hin
        omega
      · exact absurd hmap nofun
    · rw [List.mem_singleton.mp hd]
      exact hc

/-- Upper case keeps what separates words, and nothing else becomes like it. -/
theorem isWordBreak_of_mem_upperChar {d : Char} (hd : d ∈ upperChar c) :
    isWordBreak d = isWordBreak c := by
  cases hc : isWordBreak c with
  | false => exact not_isWordBreak_of_mem_upperChar hc hd
  | true =>
    rw [upperChar_of_isWordBreak hc, List.mem_singleton] at hd
    rw [hd, hc]

theorem not_isWordBreak_of_mem_upper {d : Char} (hcs : ∀ c ∈ cs, isWordBreak c = false)
    (hd : d ∈ upper cs) : isWordBreak d = false := by
  obtain ⟨c, hc, hd⟩ := List.mem_flatMap.mp hd
  exact (isWordBreak_of_mem_upperChar hd).trans (hcs c hc)

/-- Blanks separate words, so upper case makes no blanks either. -/
theorem not_isBlank_of_mem_upper {d : Char} (hcs : ∀ c ∈ cs, isBlank c = false)
    (hd : d ∈ upper cs) : isBlank d = false := by
  obtain ⟨c, hc, hd⟩ := List.mem_flatMap.mp hd
  refine Bool.eq_false_iff.mpr fun hblank => ?_
  have hbreak : isWordBreak d = true := by simp [isWordBreak, hblank]
  rw [isWordBreak_of_mem_upperChar hd] at hbreak
  rw [upperChar_of_isWordBreak hbreak, List.mem_singleton] at hd
  exact absurd (hd ▸ hblank) (ne_true_of_eq_false (hcs c hc))

/-- What separates words in a text still does so in upper case. -/
theorem mem_upper_of_isWordBreak (hc : isWordBreak c = true) (hmem : c ∈ cs) : c ∈ upper cs := by
  refine List.mem_flatMap.mpr ⟨c, hmem, ?_⟩
  rw [upperChar_of_isWordBreak hc]
  exact List.mem_singleton_self c

theorem upper_cons (c : Char) (cs : List Char) : upper (c :: cs) = upperChar c ++ upper cs :=
  List.flatMap_cons ..

theorem upper_gap {gap : List Char} (hgap : ∀ c ∈ gap, isWordBreak c = true) : upper gap = gap := by
  induction gap with
  | nil => rfl
  | cons c gap ih =>
    obtain ⟨hc, hgap⟩ := List.forall_mem_cons.mp hgap
    rw [upper_cons, upperChar_of_isWordBreak hc, ih hgap]
    rfl

/-! ## Abbreviations -/

/-- The first characters of the words, in upper case. -/
def initials (ws : List (List Char)) : List Char := ws.flatMap fun w => upper (w.take 1)

theorem upper_heads (ws : List (List Char)) : upper (ws.filterMap List.head?) = initials ws := by
  induction ws with
  | nil => rfl
  | cons w ws ih =>
    have hcons : initials (w :: ws) = upper (w.take 1) ++ initials ws := List.flatMap_cons ..
    rw [hcons, ← ih]
    cases w with
    | nil => rfl
    | cons c w =>
      have hheads : ((c :: w) :: ws).filterMap List.head? = c :: ws.filterMap List.head? := rfl
      rw [hheads, upper_cons, List.take_succ_cons, List.take_zero, upper_cons]
      exact congrArg (· ++ _) (List.append_nil _).symm

variable {name : String}

theorem abbreviate_of_words (h : HasWords name.toList ws) (hws : 2 ≤ ws.length) :
    abbreviate name = String.ofList ((initials ws).take 6) := by
  unfold abbreviate
  rw [wordsOf_of_hasWords h]
  dsimp only
  rw [if_neg (Nat.not_le.mpr hws), upper_heads]

/-- **With one word at most, the name is cut as it stands.** -/
theorem abbreviate_of_word (h : HasWords name.toList ws) (hws : ws.length ≤ 1) :
    abbreviate name = String.ofList (upper (name.toList.take 4)) := by
  unfold abbreviate
  rw [wordsOf_of_hasWords h]
  dsimp only
  rw [if_pos hws]

/-- The name begins with the word, which fills the first four characters or is the whole name. -/
def Leading (w cs : List Char) : Prop := w <+: cs ∧ (4 ≤ w.length ∨ cs = w)

theorem Leading.take_eq (h : Leading w cs) : cs.take 4 = w.take 4 := by
  obtain ⟨⟨more, rfl⟩, hlong | hwhole⟩ := h
  · exact List.take_append_of_le_length hlong
  · rw [hwhole]

/-- **Where nothing in the cut separates words, the one word leads.** -/
theorem leading_of_cut (h : HasWords cs [w]) (hcut : ∀ c ∈ cs.take 4, isWordBreak c = false) :
    Leading w cs := by
  cases h with
  | @cons gap w rest _ hgap hne hw hstop hrest =>
    cases gap with
    | cons c gap =>
      -- the gap would be in the cut
      have hc := hcut c (List.mem_cons_self ..)
      exact absurd ((hgap c (List.mem_cons_self ..)).symm.trans hc) nofun
    | nil =>
      refine ⟨List.prefix_append w rest, ?_⟩
      cases rest with
      | nil => exact Or.inr (List.append_nil w)
      | cons c rest =>
        -- what follows a short word would be in the cut
        refine Or.inl (Nat.le_of_not_lt fun hshort => ?_)
        have hmem : c ∈ (w ++ c :: rest).take 4 := by
          rw [List.take_append]
          refine List.mem_append_right _ ?_
          obtain ⟨n, hn⟩ := Nat.exists_eq_succ_of_ne_zero (Nat.sub_ne_zero_of_lt hshort)
          rw [hn]
          exact List.mem_cons_self ..
        exact absurd ((hstop c rfl).symm.trans (hcut c hmem)) nofun

/--
**The abbreviation of a name with several words depends on the words only, and that of a single
word on what stands around it.**

With two words at least it is made of the first six characters of the initials in upper case, so it
is the same for all names of these words and nothing in it separates words. With one word it is made
of the first four characters of the name. It is the abbreviation of the word, and free of all that
separates words, exactly if the word leads the name. Without words it is the cut name itself.
-/
theorem abbreviate_words (h : HasWords name.toList ws) :
    (2 ≤ ws.length →
      abbreviate name = String.ofList ((initials ws).take 6) ∧
      (∀ c ∈ (abbreviate name).toList, isWordBreak c = false) ∧
      ∀ other : String, HasWords other.toList ws → abbreviate other = abbreviate name) ∧
    (∀ w, ws = [w] →
      abbreviate name = String.ofList (upper (name.toList.take 4)) ∧
      (abbreviate name = String.ofList (upper (w.take 4)) ↔ Leading w name.toList) ∧
      ((∀ c ∈ (abbreviate name).toList, isWordBreak c = false) ↔ Leading w name.toList)) ∧
    (ws = [] → abbreviate name = String.ofList (name.toList.take 4)) := by
  refine ⟨fun hws => ?_, ?_, ?_⟩
  · have hname := abbreviate_of_words h hws
    refine ⟨hname, fun c hc => ?_, fun other hother => ?_⟩
    · rw [hname, String.toList_ofList] at hc
      obtain ⟨w, hw, hc⟩ := List.mem_flatMap.mp (List.mem_of_mem_take hc)
      refine not_isWordBreak_of_mem_upper (fun d hd => ?_) hc
      exact h.not_isWordBreak hw (List.mem_of_mem_take hd)
    · rw [hname, abbreviate_of_words hother hws]
  · rintro w rfl
    have hname := abbreviate_of_word h (Nat.le_refl 1)
    have hchars : (abbreviate name).toList = upper (name.toList.take 4) := by
      rw [hname, String.toList_ofList]
    -- a cut name with anything else than the word in it keeps what separates words
    have hclean : (∀ c ∈ (abbreviate name).toList, isWordBreak c = false) →
        Leading w name.toList := by
      intro hclean
      refine leading_of_cut h fun c hc => Bool.eq_false_iff.mpr fun hbreak => ?_
      -- the word itself has nothing in it that separates words
      have hfree := hclean c (hchars ▸ mem_upper_of_isWordBreak hbreak hc)
      exact absurd (hbreak.symm.trans hfree) nofun
    have hword : Leading w name.toList → abbreviate name = String.ofList (upper (w.take 4)) := by
      intro hlead
      rw [hname, hlead.take_eq]
    have hfree : abbreviate name = String.ofList (upper (w.take 4)) →
        ∀ c ∈ (abbreviate name).toList, isWordBreak c = false := by
      intro heq c hc
      rw [heq, String.toList_ofList] at hc
      refine not_isWordBreak_of_mem_upper (fun d hd => ?_) hc
      exact h.not_isWordBreak (List.mem_singleton_self w) (List.mem_of_mem_take hd)
    exact ⟨hname, ⟨fun heq => hclean (hfree heq), hword⟩, hclean,
      fun hlead => hfree (hword hlead)⟩
  · rintro rfl
    rw [abbreviate_of_word h (Nat.zero_le 1),
      upper_gap fun c hc => h.isWordBreak (List.mem_of_mem_take hc)]

/-- Three words with white space of two kinds around them and both marks between them. -/
def looseName : String := "\u2003quick-_\u00dfrown__fox\t"

theorem abbreviate_words_loose :
    HasWords looseName.toList ["quick".toList, "\u00dfrown".toList, "fox".toList] ∧
      abbreviate looseName = "QSSF" ∧
      (∀ c ∈ (abbreviate looseName).toList, isWordBreak c = false) ∧
      abbreviate "quick \u00dfrown fox" = abbreviate looseName := by
  have hwords : HasWords looseName.toList ["quick".toList, "\u00dfrown".toList, "fox".toList] :=
    hasWords_iff.mpr (by decide +kernel)
  have hspaced : HasWords "quick \u00dfrown fox".toList
      ["quick".toList, "\u00dfrown".toList, "fox".toList] :=
    hasWords_iff.mpr (by decide +kernel)
  obtain ⟨hname, hfree, hsame⟩ := (abbreviate_words hwords).1 (by decide)
  refine ⟨hwords, hname.trans ?_, hfree, hsame _ hspaced⟩
  decide +kernel

/-- A mark in front of a single word takes the place of its fourth character. -/
theorem abbreviate_mark_in_front :
    HasWords "_abcd".toList ["abcd".toList] ∧ abbreviate "_abcd" = "_ABC" ∧
      abbreviate "_abcd" ≠ String.ofList (upper ("abcd".toList.take 4)) ∧
      abbreviate "_abcd" ≠ abbreviate "abcd" ∧ '_' ∈ (abbreviate "_abcd").toList ∧
      isWordBreak '_' = true := by
  refine ⟨hasWords_iff.mpr (by decide +kernel), ?_⟩
  decide +kernel

end Crowfoot
