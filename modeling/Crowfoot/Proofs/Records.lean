import Crowfoot.Csv.Reading
import Crowfoot.Proofs.TableFiles

/-!
# What is written of a table is read back

A field is read back with anything that may follow it, a comma or a line feed. Between quotes every
character stands for itself, but for a quote, which is written twice; outside of quotes there is
none of the characters that the reader looks for. A record is read back field by field. The one
record that would leave an empty line, that of a single empty field, has its field in quotes, so it
does not matter what a reader makes of empty lines.
-/

namespace Crowfoot.Csv

namespace Scan

variable {blank : List (List String)} {s s' : Scan} {fields : List String}
  {records : List (List String)}

theorem run_cons {c : Char} (h : s.step blank c = some s') (cs : List Char) :
    s.run blank (c :: cs) = s'.run blank cs := by
  unfold run
  rw [List.foldlM_cons, h]
  rfl

theorem run_append {cs : List Char} (h : s.run blank cs = some s') (ds : List Char) :
    s.run blank (cs ++ ds) = s'.run blank ds := by
  unfold run at h ⊢
  rw [List.foldlM_append, h]
  rfl

/-! ## Fields -/

/-- Outside of quotes a character that is not special is taken as it is. -/
theorem run_bare {cs : List Char} (h : ∀ c ∈ cs, isSpecial c = false) (field : List Char) :
    run blank ⟨.bare, field, fields, records⟩ cs = some ⟨.bare, field ++ cs, fields, records⟩ := by
  induction cs generalizing field with
  | nil =>
    rw [List.append_nil]
    rfl
  | cons c rest ih =>
    obtain ⟨hc, hrest⟩ := List.forall_mem_cons.mp h
    have hstep : step blank ⟨.bare, field, fields, records⟩ c =
        some ⟨.bare, field ++ [c], fields, records⟩ := by
      simp [step, plain, hc, add]
    rw [run_cons hstep, ih hrest, List.append_assoc, List.singleton_append]

theorem run_start {c : Char} {cs : List Char} (h : ∀ d ∈ c :: cs, isSpecial d = false) :
    run blank ⟨.start, [], fields, records⟩ (c :: cs) =
      some ⟨.bare, c :: cs, fields, records⟩ := by
  obtain ⟨hc, hrest⟩ := List.forall_mem_cons.mp h
  have hquote : c ≠ '"' := by
    rintro rfl
    exact absurd hc (by decide)
  have hfeed : c ≠ '\n' := by
    rintro rfl
    exact absurd hc (by decide)
  have hstep : step blank ⟨.start, [], fields, records⟩ c =
      some ⟨.bare, [c], fields, records⟩ := by
    simp [step, plain, hc, hquote, hfeed, add]
  rw [run_cons hstep, run_bare hrest, List.singleton_append]

/-- Between quotes every character is taken, and of two quotes one. -/
theorem run_inside (cs field : List Char) :
    run blank ⟨.inside, field, fields, records⟩
        (cs.flatMap fun c => if c = '"' then ['"', '"'] else [c]) =
      some ⟨.inside, field ++ cs, fields, records⟩ := by
  induction cs generalizing field with
  | nil =>
    rw [List.append_nil]
    rfl
  | cons c rest ih =>
    -- a quote is written as two, and the second one tells that it was not the end
    have hstep : run blank ⟨.inside, field, fields, records⟩
        (if c = '"' then ['"', '"'] else [c]) =
          some ⟨.inside, field ++ [c], fields, records⟩ := by
      split
      · rename_i hc
        rw [hc]
        rfl
      · rename_i hc
        simp [run, step, hc, add]
    rw [List.flatMap_cons, run_append hstep, ih, List.append_assoc, List.singleton_append]

theorem run_quoted (cs : List Char) :
    run blank ⟨.start, [], fields, records⟩ (quoted cs) =
      some ⟨.closed, cs, fields, records⟩ := by
  have hopen : step blank ⟨.start, [], fields, records⟩ '"' =
      some ⟨.inside, [], fields, records⟩ := rfl
  have hclose : step blank ⟨.inside, cs, fields, records⟩ '"' =
      some ⟨.closed, cs, fields, records⟩ := rfl
  unfold quoted
  rw [List.cons_append, run_cons hopen, run_append (run_inside cs []), List.nil_append,
    run_cons hclose]
  rfl

/-- **A field is read back**, and the reader has not begun it only if it is empty. -/
theorem run_encodeField (blank : List (List String)) (cs : List Char) (fields : List String)
    (records : List (List String)) :
    ∃ place, run blank ⟨.start, [], fields, records⟩ (encodeField cs) =
        some ⟨place, cs, fields, records⟩ ∧ place ≠ .inside ∧ (place = .start → cs = []) := by
  unfold encodeField
  split
  · exact ⟨.closed, run_quoted cs, nofun, nofun⟩
  · rename_i hspecial
    have hplain : ∀ c ∈ cs, isSpecial c = false := by simpa using hspecial
    cases cs with
    | nil => exact ⟨.start, rfl, nofun, fun _ => rfl⟩
    | cons c rest => exact ⟨.bare, run_start hplain, nofun, nofun⟩

/-! ## Records -/

/-- Outside of quotes a comma ends the field. -/
theorem step_comma (h : s.place ≠ .inside) : s.step blank ',' = some s.endField := by
  obtain ⟨place, field, fields, records⟩ := s
  cases place with
  | inside => exact absurd rfl h
  | start => rfl
  | bare => rfl
  | closed => rfl

/-- Outside of quotes a line feed ends the record, if it has been begun. -/
theorem step_feed (h : s.place ≠ .inside) (hbegun : s.isFresh = false) :
    s.step blank '\n' = some s.endRecord := by
  obtain ⟨place, field, fields, records⟩ := s
  cases place with
  | inside => exact absurd rfl h
  | start =>
    have hfields : fields.isEmpty = false := hbegun
    simp [step, hfields, plain, isSpecial, delimit]
  | bare => rfl
  | closed => rfl

/-- **The fields of a record are read back**, if they do not leave an empty line. -/
theorem run_encodeFields {fs : List (List Char)} (hne : fs ≠ []) :
    ∀ {fields : List String}, (fields = [] → fs ≠ [[]]) →
      run blank ⟨.start, [], fields, records⟩ (encodeFields fs ++ ['\n']) =
        some (atRecord (records ++ [fields ++ fs.map String.ofList])) := by
  induction fs with
  | nil => exact absurd rfl hne
  | cons cs rest ih =>
    intro fields hline
    obtain ⟨place, hread, hplace, hstart⟩ := run_encodeField blank cs fields records
    cases rest with
    | nil =>
      -- the line feed ends a record, as the reader has begun one
      have hbegun : isFresh ⟨place, cs, fields, records⟩ = false := by
        refine Bool.eq_false_iff.mpr fun hfresh => ?_
        obtain ⟨hfirst, hempty⟩ := (Bool.and_eq_true _ _).mp hfresh
        refine hline (List.isEmpty_iff.mp hempty) ?_
        rw [hstart (of_decide_eq_true hfirst)]
      rw [encodeFields, run_append hread, run_cons (step_feed hplace hbegun)]
      rfl
    | cons ds more =>
      -- behind a comma a field has been read, so the rest may well be an empty one
      have hnext : fields ++ [String.ofList cs] ≠ [] := by simp
      have hrest := ih (List.cons_ne_nil ds more) fun hnil => absurd hnil hnext
      have hcomma : step blank ⟨place, cs, fields, records⟩ ',' =
          some ⟨.start, [], fields ++ [String.ofList cs], records⟩ := step_comma hplace
      have hsplit : encodeFields (cs :: ds :: more) =
          encodeField cs ++ ',' :: encodeFields (ds :: more) := rfl
      rw [hsplit, List.append_assoc, run_append hread, List.cons_append, run_cons hcomma, hrest,
        List.append_assoc]
      rfl

/-- **A record with fields is read back.** -/
theorem run_encodeRecord {fs : List (List Char)} (hne : fs ≠ []) (records : List (List String)) :
    (atRecord records).run blank (encodeRecord fs) =
      some (atRecord (records ++ [fs.map String.ofList])) := by
  unfold encodeRecord
  split
  · rename_i hempty
    have hfeed : step blank ⟨.closed, [], [], records⟩ '\n' =
        some (atRecord (records ++ [[""]])) := rfl
    have hquoted : (atRecord records).run blank (quoted []) =
        some ⟨.closed, [], [], records⟩ := run_quoted []
    rw [run_append hquoted, run_cons hfeed, hempty]
    rfl
  · rename_i hline
    exact run_encodeFields hne fun _ => hline

/-! ## Tables -/

/-- The rows are read back one after the other. -/
theorem run_encodeRows {columns : Nat} (hcolumns : columns ≠ 0) {rows : List (List Value)} :
    ∀ {cs : List Char} {records : List (List String)}, encodeRows columns rows = .ok cs →
      (atRecord records).run blank cs =
        some (atRecord (records ++ rows.map fun row => row.map Value.display)) := by
  induction rows with
  | nil =>
    intro cs records h
    rw [← Except.ok.inj h, List.map_nil, List.append_nil]
    rfl
  | cons row rest ih =>
    intro cs records h
    unfold encodeRows at h
    split at h
    · rename_i hlength
      obtain ⟨more, hmore, hcs⟩ := bind_eq_ok.mp h
      obtain rfl := Except.ok.inj hcs
      -- a row is as long as the header, so it is not without fields
      have hne : rowFields row ≠ [] := by
        intro hnil
        have hrow : row = [] := List.map_eq_nil_iff.mp hnil
        rw [hrow] at hlength
        exact hcolumns hlength.symm
      have hfields : (rowFields row).map String.ofList = row.map Value.display := by
        simp [rowFields]
      rw [run_append (run_encodeRecord hne records), hfields, ih hmore, List.append_assoc]
      rfl
    · cases h

end Scan

variable {t : Table}

/-- **The text of a table has its header and its rows as records.** -/
theorem records?_render {text : String} (hcolumns : t.columns ≠ []) (h : render t = .ok text)
    (blank : List (List String)) :
    records? blank text = some (t.columns :: t.rows.map fun row => row.map Value.display) := by
  have hlength : t.columns.length ≠ 0 := fun h => hcolumns (List.length_eq_zero_iff.mp h)
  have hheader : t.columns.map String.toList ≠ [] := fun h => hcolumns (List.map_eq_nil_iff.mp h)
  have hnames : (t.columns.map String.toList).map String.ofList = t.columns := by
    simp
  unfold render at h
  rw [if_neg fun he => hcolumns (List.isEmpty_iff.mp he)] at h
  obtain ⟨cs, hcs, htext⟩ := bind_eq_ok.mp h
  obtain rfl := Except.ok.inj htext
  unfold records?
  rw [String.toList_ofList, Scan.run_append (Scan.run_encodeRecord hheader []),
    Scan.run_encodeRows hlength hcs, hnames]
  rfl

/-- The row that keeps the rows from being written is the first one of another length. -/
theorem encodeRows_eq_error {columns : Nat} {rows : List (List Value)} {e : UnequalLengths} :
    encodeRows columns rows = .error e ↔
      ∃ before row after, rows = before ++ row :: after ∧
        (∀ r ∈ before, r.length = columns) ∧ row.length ≠ columns ∧ e = ⟨row.length, columns⟩ := by
  induction rows with
  | nil =>
    constructor
    · intro h
      cases h
    · intro h
      obtain ⟨before, row, after, hrows, _⟩ := h
      exact absurd hrows (by simp)
  | cons row rest ih =>
    rw [encodeRows]
    by_cases hlength : row.length = columns
    · -- this row is fine, so it goes in front of the one that is not
      rw [if_pos hlength, bind_pure_eq_error, ih]
      constructor
      · intro h
        obtain ⟨before, bad, after, rfl, hbefore, hbad⟩ := h
        exact ⟨row :: before, bad, after, rfl, List.forall_mem_cons.mpr ⟨hlength, hbefore⟩, hbad⟩
      · intro h
        obtain ⟨before, bad, after, hrows, hbefore, hbad, he⟩ := h
        cases before with
        | nil =>
          obtain ⟨rfl, _⟩ := List.cons.inj hrows
          exact absurd hlength hbad
        | cons r more =>
          obtain ⟨rfl, rfl⟩ := List.cons.inj hrows
          exact ⟨more, bad, after, rfl, (List.forall_mem_cons.mp hbefore).2, hbad, he⟩
    · -- this is the row, and none stands in front of it
      rw [if_neg hlength]
      constructor
      · intro h
        exact ⟨[], row, rest, rfl, by simp, hlength, (Except.error.inj h).symm⟩
      · intro h
        obtain ⟨before, bad, after, hrows, hbefore, _, rfl⟩ := h
        cases before with
        | nil =>
          obtain ⟨rfl, _⟩ := List.cons.inj hrows
          rfl
        | cons r more =>
          obtain ⟨rfl, _⟩ := List.cons.inj hrows
          exact absurd (hbefore _ (List.mem_cons_self ..)) hlength

/-- What keeps a table from being written is a row, and the table has columns. -/
theorem render_eq_error {e : UnequalLengths} (hcolumns : t.columns ≠ []) :
    render t = .error e ↔ encodeRows t.columns.length t.rows = .error e := by
  rw [render, if_neg fun he => hcolumns (List.isEmpty_iff.mp he), bind_pure_eq_error]

/--
**A table is written as its records, or its first uneven row is found.**

A table with columns can be written if and only if all of its rows are as long as the header, and
otherwise the error tells of the first row that is not. What is written is read back as the header
and the rows, whatever characters there are in them and whatever a reader takes an empty line for.
A table without columns is an empty line for the header and one for each row.
-/
theorem render_records (t : Table) :
    (t.columns ≠ [] →
      ((∃ text, render t = .ok text) ↔ ∀ row ∈ t.rows, row.length = t.columns.length) ∧
      (∀ e, render t = .error e ↔ ∃ before row after, t.rows = before ++ row :: after ∧
        (∀ r ∈ before, r.length = t.columns.length) ∧ row.length ≠ t.columns.length ∧
        e = ⟨row.length, t.columns.length⟩) ∧
      ∀ text, render t = .ok text → ∀ blank,
        records? blank text = some (t.columns :: t.rows.map fun row => row.map Value.display)) ∧
    (t.columns = [] →
      render t = .ok (String.ofList (List.replicate (t.rows.length + 1) '\n'))) := by
  constructor
  · intro hcolumns
    refine ⟨?_, fun e => (render_eq_error hcolumns).trans encodeRows_eq_error, fun text htext =>
      records?_render hcolumns htext⟩
    rw [exists_render_iff, or_iff_right hcolumns]
  · intro hcolumns
    rw [render, if_pos (List.isEmpty_iff.mpr hcolumns)]
    rfl

/-- A header and cells that cannot stand as they are. -/
def noteTable : Table where
  name := "Note"
  kind := .entity
  columns := ["text, or none"]
  rows := [[.text "She said \"no\"."], [.text "two\r\nlines"], [.text ""], [.null], [.int (-1)]]

theorem render_records_note :
    noteTable.columns ≠ [] ∧ ∃ text, render noteTable = .ok text ∧
      text = "\"text, or none\"\n\"She said \"\"no\"\".\"\n\"two\r\nlines\"\n\"\"\n\"\"\n-1\n" ∧
      ∀ blank, records? blank text = some [["text, or none"], ["She said \"no\"."],
        ["two\r\nlines"], [""], [""], ["-1"]] := by
  have hcolumns : noteTable.columns ≠ [] := by decide
  obtain ⟨hwritten, _, hread⟩ := (render_records noteTable).1 hcolumns
  obtain ⟨text, htext⟩ := hwritten.mpr (by decide)
  exact ⟨hcolumns, text, htext, (Except.ok.inj htext).symm, hread text htext⟩

/-- A quote that is not closed has no record, and neither has one that goes on after its end. -/
example : records? [] "a,\"b" = none ∧ records? [] "\"a\"b" = none := by decide

end Crowfoot.Csv
