import Crowfoot.Diagram.Line
import Mathlib.Data.List.Basic

/-!
# The parts of a line

What the readers of a line's parts do with a part that is there: a run is taken up to where the
text stops to go on like it, a gap is skipped, a word is found among others of its length. Each is
said for a part with anything behind it, so that a line is read part by part.

The classes of characters are apart where it matters. A name has no blank in it and none of the
marks that stand between names.
-/

namespace Crowfoot

open Text

/-! ## Classes of characters -/

namespace Text

/-- The codes of a range. -/
def CodeRange.codes (r : CodeRange) : List Nat := List.range' r.first (r.last + 1 - r.first)

theorem CodeRange.mem_codes_of_covers {rs : List CodeRange} {code : Nat}
    (h : CodeRange.covers rs code = true) : code ∈ rs.flatMap CodeRange.codes := by
  induction rs with
  | nil => exact absurd h (by simp [CodeRange.covers])
  | cons r rest ih =>
    rw [CodeRange.covers, Bool.and_eq_true, Bool.or_eq_true] at h
    obtain ⟨hfirst, hlast⟩ := h
    rw [List.flatMap_cons, List.mem_append]
    rcases hlast with hlast | hrest
    · left
      have hle : r.first ≤ code := of_decide_eq_true hfirst
      have hle' : code ≤ r.last := of_decide_eq_true hlast
      unfold CodeRange.codes
      rw [List.mem_range'_1]
      omega
    · exact Or.inr (ih hrest)

end Text

namespace Line

theorem not_isBlank_of_isNameChar {c : Char} (h : isNameChar c = true) : isBlank c = false := by
  have hall : ∀ code ∈ blankRanges.flatMap CodeRange.codes,
      CodeRange.covers alphanumericRanges code = false ∧ code ≠ '_'.toNat := by
    decide +kernel
  by_contra hblank
  obtain ⟨hletter, hline⟩ :=
    hall c.toNat (CodeRange.mem_codes_of_covers ((Bool.not_eq_false _).mp hblank))
  rcases (Bool.or_eq_true _ _).mp h with h | h
  · exact absurd h (ne_true_of_eq_false hletter)
  · exact hline (congrArg Char.toNat (of_decide_eq_true h))

/-- A character of a name is none that cannot be in a name. -/
theorem ne_of_isNameChar {c d : Char} (h : isNameChar c = true) (hd : isNameChar d = false) :
    c ≠ d := by
  intro he
  rw [he, hd] at h
  exact absurd h (by simp)

theorem not_isGap_of_isNameChar {c : Char} (h : isNameChar c = true) : isGap c = false := by
  have hspace := ne_of_isNameChar h (d := ' ') (by decide)
  have htab := ne_of_isNameChar h (d := '\t') (by decide)
  simp [isGap, hspace, htab]

theorem isBlank_of_isGap {c : Char} (h : isGap c = true) : isBlank c = true := by
  rcases (Bool.or_eq_true _ _).mp h with h | h
  · rw [of_decide_eq_true h]
    decide
  · rw [of_decide_eq_true h]
    decide

end Line

/-! ## Runs -/

/-- The text does not go on with such a character. -/
def Stops (p : Char → Bool) (rest : List Char) : Prop := ∀ c, rest.head? = some c → p c = false

namespace Stops

variable {p : Char → Bool} {c : Char} {cs : List Char}

theorem nil (p : Char → Bool) : Stops p [] := fun _ h => absurd h (by simp)

theorem cons_iff : Stops p (c :: cs) ↔ p c = false := by
  constructor
  · intro h
    exact h c rfl
  · intro h d hd
    rw [← Option.some.inj hd]
    exact h

theorem of_forall (h : ∀ c ∈ cs, p c = false) : Stops p cs :=
  fun c hc => h c (List.mem_of_mem_head? hc)

/-- A text that goes on like that has lost a character when the run is dropped. -/
theorem iff_dropWhile_eq : Stops p cs ↔ cs.dropWhile p = cs := by
  cases cs with
  | nil => exact ⟨fun _ => rfl, fun _ => nil p⟩
  | cons c rest =>
    rw [cons_iff, List.dropWhile_cons]
    cases hc : p c with
    | false => simp
    | true =>
      have hlen : (rest.dropWhile p).length < (c :: rest).length :=
        Nat.lt_succ_of_le (List.dropWhile_suffix p).length_le
      simp only [Bool.true_eq_false, if_true, false_iff]
      intro he
      exact absurd (congrArg List.length he) (Nat.ne_of_lt hlen)

theorem dropWhile_eq (h : Stops p cs) : cs.dropWhile p = cs := iff_dropWhile_eq.mp h

theorem takeWhile_eq (h : Stops p cs) : cs.takeWhile p = [] := by
  cases cs with
  | nil => rfl
  | cons c rest => rw [List.takeWhile_cons, cons_iff.mp h, if_neg (by simp)]

/-- A text ends like its last part. -/
theorem reverse_append {front back : List Char} (hne : back ≠ []) (h : Stops p back.reverse) :
    Stops p (front ++ back).reverse := by
  intro c hc
  rw [List.head?_reverse, List.getLast?_append_of_ne_nil _ hne, ← List.head?_reverse] at hc
  exact h c hc

end Stops

namespace Text

/-- A text is trimmed if it neither begins nor ends with a blank. -/
theorem trim_eq_self_iff {cs : List Char} :
    trim cs = cs ↔ Stops isBlank cs ∧ Stops isBlank cs.reverse := by
  unfold trim
  constructor
  · intro h
    have hstart : cs.dropWhile isBlank = cs := by
      -- what is left has all the characters, so none went at the start
      have hlen := congrArg List.length h
      rw [List.length_reverse] at hlen
      have hend := (List.dropWhile_suffix (l := (cs.dropWhile isBlank).reverse) isBlank).length_le
      rw [List.length_reverse, hlen] at hend
      exact (List.dropWhile_suffix isBlank).eq_of_length_le hend
    rw [hstart, List.reverse_eq_iff] at h
    exact ⟨Stops.iff_dropWhile_eq.mpr hstart, Stops.iff_dropWhile_eq.mpr h⟩
  · intro h
    rw [h.1.dropWhile_eq, h.2.dropWhile_eq, List.reverse_reverse]

theorem trim_space_around {cs : List Char} (h : trim cs = cs) : trim (' ' :: (cs ++ [' '])) = cs := by
  obtain ⟨hstart, hend⟩ := trim_eq_self_iff.mp h
  have hspace : isBlank ' ' = true := by decide
  unfold trim
  rw [List.dropWhile_cons, if_pos hspace]
  cases cs with
  | nil => decide
  | cons c rest =>
    -- the first character is there, so the blank behind does not matter to the start
    have hc : Stops isBlank (c :: rest ++ [' ']) := Stops.cons_iff.mpr (Stops.cons_iff.mp hstart)
    rw [hc.dropWhile_eq, List.reverse_append, List.reverse_singleton, List.singleton_append,
      List.dropWhile_cons, if_pos hspace, hend.dropWhile_eq, List.reverse_reverse]

end Text

/-! ## Words -/

/-- A nonempty run of letters, numbers and underscores. -/
def IsName (name : String) : Prop := name ≠ "" ∧ ∀ c ∈ name.toList, Line.isNameChar c = true

instance (name : String) : Decidable (IsName name) :=
  decidable_of_iff (name ≠ "" ∧ name.toList.all Line.isNameChar = true)
    (and_congr_right fun _ => List.all_eq_true)

theorem exists_cons_of_ne_empty {s : String} (h : s ≠ "") : ∃ c cs, s.toList = c :: cs := by
  refine List.exists_cons_of_ne_nil fun hnil => h ?_
  rw [← String.toList_inj]
  exact hnil

theorem IsName.exists_cons {name : String} (h : IsName name) :
    ∃ c cs, name.toList = c :: cs ∧ Line.isNameChar c = true := by
  obtain ⟨c, cs, hcs⟩ := exists_cons_of_ne_empty h.1
  refine ⟨c, cs, hcs, h.2 c ?_⟩
  rw [hcs]
  exact List.mem_cons_self ..

theorem IsName.not_mem {name : String} {c : Char} (h : IsName name)
    (hc : Line.isNameChar c = false) : c ∉ name.toList :=
  fun hmem => Line.ne_of_isNameChar (h.2 c hmem) hc rfl

/-- The text is in one piece. -/
def Unbroken (text : String) : Prop := ∀ c ∈ text.toList, isBlank c = false

instance (text : String) : Decidable (Unbroken text) :=
  decidable_of_iff (text.toList.all (fun c => !isBlank c) = true) <| by
    simp only [Unbroken, List.all_eq_true, Bool.not_eq_true']

/-- A name goes on as a name. -/
theorem IsName.append {s t : String} (hs : IsName s)
    (ht : ∀ c ∈ t.toList, Line.isNameChar c = true) : IsName (s ++ t) := by
  obtain ⟨c, cs, hcs, _⟩ := hs.exists_cons
  constructor
  · intro h
    have hlist := congrArg String.toList h
    rw [String.toList_append, hcs] at hlist
    exact absurd hlist nofun
  · intro c hc
    rw [String.toList_append] at hc
    exact (List.mem_append.mp hc).elim (hs.2 c) (ht c)

namespace Line

variable {p : Char → Bool} {word : String} {rest : List Char}

/-- **A word is read up to where the text stops to go on like it.** -/
theorem run?_append (hne : word ≠ "") (hall : ∀ c ∈ word.toList, p c = true) (hstop : Stops p rest) :
    run? p (word.toList ++ rest) = some (word, rest) := by
  obtain ⟨c, cs, hcs⟩ := exists_cons_of_ne_empty hne
  unfold run?
  rw [List.takeWhile_append_of_pos hall, List.dropWhile_append_of_pos hall, hstop.takeWhile_eq,
    hstop.dropWhile_eq, List.append_nil, String.ofList_toList, if_neg (by simp [hcs])]

theorem run?_of_stops (h : Stops p rest) : run? p rest = none := by
  unfold run?
  rw [h.takeWhile_eq]
  rfl

/-- A run is not empty, and all of its characters are of the kind. -/
theorem all_of_run? {cs : List Char} (h : run? p cs = some (word, rest)) :
    word ≠ "" ∧ ∀ c ∈ word.toList, p c = true := by
  unfold run? at h
  split at h
  · exact absurd h nofun
  · rename_i hne
    obtain ⟨rfl, _⟩ := Prod.mk.inj (Option.some.inj h)
    constructor
    · intro he
      have hnil := congrArg String.toList he
      rw [String.toList_ofList] at hnil
      exact hne (List.isEmpty_iff.mpr hnil)
    · intro c hc
      rw [String.toList_ofList] at hc
      exact List.all_eq_true.mp List.all_takeWhile c hc

theorem isTypeChar_iff {c : Char} : isTypeChar c = true ↔ isBlank c = false ∧ c ≠ '<' := by
  simp [isTypeChar]

theorem name?_append {name : String} (h : IsName name) (hstop : Stops isNameChar rest) :
    name? (name.toList ++ rest) = some (name, rest) := run?_append h.1 h.2 hstop

theorem skipGap_space (cs : List Char) : skipGap (' ' :: cs) = skipGap cs := rfl

theorem skipGap_of_stops (h : Stops isGap rest) : skipGap rest = rest := h.dropWhile_eq

theorem skipGap_name {name : String} (h : IsName name) (rest : List Char) :
    skipGap (name.toList ++ rest) = name.toList ++ rest := by
  obtain ⟨c, cs, hcs, hc⟩ := h.exists_cons
  rw [hcs]
  exact skipGap_of_stops (Stops.cons_iff.mpr (not_isGap_of_isNameChar hc))

theorem after?_append (word : String) (rest : List Char) :
    after? word (word.toList ++ rest) = some rest :=
  List.isPrefixOf?_eq_some_iff_append_eq.mpr rfl

theorem after?_eq_some_iff {cs : List Char} :
    after? word cs = some rest ↔ word.toList ++ rest = cs := List.isPrefixOf?_eq_some_iff_append_eq

/-- **Of words of one length the one that is there is found.** -/
theorem oneOf?_append {words : List String} {n : Nat} (hlen : ∀ w ∈ words, w.length = n)
    (hmem : word ∈ words) (rest : List Char) :
    oneOf? words (word.toList ++ rest) = some (word, rest) := by
  unfold oneOf?
  induction words with
  | nil => exact absurd hmem (by simp)
  | cons w ws ih =>
    rw [List.findSome?_cons]
    cases hw : after? w (word.toList ++ rest) with
    | none =>
      have hne : word ≠ w := by
        intro he
        rw [he, after?_append] at hw
        exact absurd hw (by simp)
      exact ih (fun w' hw' => hlen w' (List.mem_cons_of_mem _ hw'))
        ((List.mem_cons.mp hmem).resolve_left hne)
    | some found =>
      -- two beginnings of one length are one
      have hlength : w.toList.length = word.toList.length := by
        rw [String.length_toList, String.length_toList, hlen w (List.mem_cons_self ..),
          hlen word hmem]
      obtain ⟨hword, hrest⟩ := List.append_inj (after?_eq_some_iff.mp hw) hlength
      rw [String.toList_inj.mp hword, hrest]
      rfl

/-- What comes before the first `>>`, if it has none in it and does not end with `>`. -/
theorem untilClose?_append {inner : List Char} (hnone : ¬ ['>', '>'] <:+: inner)
    (hlast : inner.getLast? ≠ some '>') (rest : List Char) :
    untilClose? (inner ++ '>' :: '>' :: rest) = some (inner, rest) := by
  induction inner with
  | nil => rfl
  | cons c cs ih =>
    have hcs : ¬ ['>', '>'] <:+: cs := fun hin => hnone (List.infix_cons_iff.mpr (Or.inr hin))
    have hlast' : cs.getLast? ≠ some '>' := by
      intro he
      refine hlast ?_
      rw [List.getLast?_cons, he]
      rfl
    -- a close that began here would be in the mark or at its end
    have hnot : ∀ tail, c = '>' → cs ++ '>' :: '>' :: rest = '>' :: tail → False := by
      intro tail hc htail
      subst hc
      cases cs with
      | nil => exact hlast rfl
      | cons d ds =>
        obtain ⟨rfl, _⟩ := List.cons.inj htail
        exact hnone (List.infix_cons_iff.mpr (Or.inl ⟨ds, rfl⟩))
    rw [List.cons_append, untilClose?.eq_3 _ _ hnot, ih hcs hlast']
    rfl

end Line

end Crowfoot
