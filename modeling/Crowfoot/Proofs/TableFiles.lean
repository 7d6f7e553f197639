import Crowfoot.Proofs.Contexts
import Crowfoot.Proofs.Places
import Crowfoot.Proofs.Success
import Crowfoot.Proofs.TableNames

/-!
# The files of the tables

A table can be written as text if all its rows are as long as its header, and the rows of a dataset
are. So the files can be made whenever the data can, one for each table. Their names are those of
the tables with an ending, which no other artifact has. Such a name stays in its directory.
-/

namespace Crowfoot

namespace Csv

/-- Rows can be encoded if they are of the length that is asked for. -/
theorem exists_encodeRows_iff {columns : Nat} {rows : List (List Value)} :
    (∃ cs, encodeRows columns rows = .ok cs) ↔ ∀ row ∈ rows, row.length = columns := by
  induction rows with
  | nil => exact ⟨fun _ row hrow => absurd hrow (by simp), fun _ => ⟨[], rfl⟩⟩
  | cons row rest ih =>
    rw [List.forall_mem_cons, encodeRows]
    by_cases hlength : row.length = columns
    · -- the row is of the length, so it is up to the rest
      rw [if_pos hlength, ← ih]
      constructor
      · intro h
        obtain ⟨cs, hcs⟩ := h
        obtain ⟨more, hmore, _⟩ := bind_eq_ok.mp hcs
        exact ⟨hlength, more, hmore⟩
      · intro h
        obtain ⟨_, more, hmore⟩ := h
        exact ⟨_, bind_eq_ok.mpr ⟨more, hmore, rfl⟩⟩
    · rw [if_neg hlength]
      exact ⟨fun ⟨_, h⟩ => absurd h nofun, fun h => absurd h.1 hlength⟩

/-- **A table can be written unless it has columns and a row of another length.** -/
theorem exists_render_iff {t : Table} :
    (∃ text, render t = .ok text) ↔
      t.columns = [] ∨ ∀ row ∈ t.rows, row.length = t.columns.length := by
  rw [← exists_encodeRows_iff, render]
  split
  · rename_i hempty
    exact ⟨fun _ => Or.inl (List.isEmpty_iff.mp hempty), fun _ => ⟨_, rfl⟩⟩
  · rename_i hcolumns
    constructor
    · intro h
      obtain ⟨text, htext⟩ := h
      obtain ⟨cs, hcs, _⟩ := bind_eq_ok.mp htext
      exact Or.inr ⟨cs, hcs⟩
    · intro h
      obtain ⟨cs, hcs⟩ := h.resolve_left fun he => hcolumns (List.isEmpty_iff.mpr he)
      exact ⟨_, bind_eq_ok.mpr ⟨cs, hcs, rfl⟩⟩

end Csv

/-! ## Names of files -/

section

variable {name : String}

theorem last_of_csv (name : String) : (name ++ ".csv").toList.getLast? = some 'v' := by
  rw [String.toList_append, List.getLast?_append]
  rfl

/-- What ends otherwise is no file of a table. -/
theorem csv_ne {other : String} (h : other.toList.getLast? ≠ some 'v') :
    name ++ ".csv" ≠ other := by
  intro he
  rw [← he] at h
  exact h (last_of_csv name)

theorem csv_ordinary (name : String) : CommandLine.Path.IsOrdinary (name ++ ".csv") :=
  ⟨csv_ne (by decide), csv_ne (by decide), csv_ne (by decide)⟩

theorem slash_not_mem_csv (h : IsName name) : '/' ∉ (name ++ ".csv").toList := by
  intro hslash
  rw [String.toList_append] at hslash
  rcases List.mem_append.mp hslash with hslash | hslash
  · exact absurd (h.2 '/' hslash) (by decide)
  · exact absurd hslash (by decide)

end

namespace Plan

variable {p : Plan} {d : Dataset} {files : List (String × String)}

/-- The files are those of the tables, and their names cannot get in each other's way. -/
structure Filed (p : Plan) (d : Dataset) (files : List (String × String)) : Prop where
  /-- Each table has a file, with the text of the table in it. -/
  contents :
    List.Forall₂ (fun t f => f.1 = t.name ++ ".csv" ∧ Csv.render t = .ok f.2) d.tables files
  /-- The entities come first, in their order, and then the join tables. -/
  names : files.map Prod.fst = p.order.entities.map (· ++ ".csv")
    ++ p.schema.joinTables.map fun t => t.name ++ ".csv"
  distinct : (files.map Prod.fst).Nodup
  /-- A nonempty run of letters, numbers and underscores stands before the ending. -/
  named : ∀ f ∈ files, ∃ name, IsName name ∧ f.1 = name ++ ".csv"
  /-- The name is one name, and leads from a directory to a place in it. -/
  inside : ∀ f ∈ files, '/' ∉ f.1.toList ∧
    ∀ l : CommandLine.Location, l.enter f.1 = f.1 :: l
  notScript : ∀ f ∈ files, f.1 ≠ "schema.sql"
  notModel : ∀ f ∈ files, f.1 ≠ "model.xmi"

theorem filesOf_eq_ok : filesOf d = .ok files ↔
    List.Forall₂ (fun t f => f.1 = t.name ++ ".csv" ∧ Csv.render t = .ok f.2) d.tables files := by
  -- one file is made if its table can be written, and it has the name of the table
  have hfile : ∀ (t : Table) (f : String × String),
      (do return (Csv.fileName t, ← Csv.render t) : Except Csv.UnequalLengths _) = .ok f ↔
        f.1 = t.name ++ ".csv" ∧ Csv.render t = .ok f.2 := by
    intro t f
    rw [bind_eq_ok]
    constructor
    · intro h
      obtain ⟨text, htext, hf⟩ := h
      obtain rfl := Except.ok.inj hf
      exact ⟨rfl, htext⟩
    · intro h
      obtain ⟨hname, htext⟩ := h
      exact ⟨f.2, htext, congrArg Except.ok (Prod.ext hname.symm rfl)⟩
  unfold filesOf
  rw [mapM_eq_ok]
  simp only [hfile]

/-- The names of the files are those of the tables with the ending. -/
theorem names_of_filesOf (h : filesOf d = .ok files) :
    files.map Prod.fst = d.tables.map fun t => t.name ++ ".csv" := by
  rw [← List.forall₂_eq_eq_eq, List.forall₂_map_left_iff, List.forall₂_map_right_iff]
  exact (filesOf_eq_ok.mp h).flip.imp fun _ _ hf => hf.1

section

variable {γ : Type} [Generator γ] {source : ValueSource γ} {rows : Nat} {g : γ}

theorem csvFiles_of_ok (h : ((p.dataset source rows).run g).1 = .ok d) :
    ((p.csvFiles source rows).run g).1 = (filesOf d).mapError .csv := by
  have hrun : (p.dataset source rows).run g = (.ok d, ((p.dataset source rows).run g).2) :=
    Prod.ext h rfl
  unfold csvFiles
  rw [StateT.run_bind, hrun]
  rfl

theorem csvFiles_of_error {e : GenerationError}
    (h : ((p.dataset source rows).run g).1 = .error e) :
    ((p.csvFiles source rows).run g).1 = .error (.generation e) := by
  have hrun : (p.dataset source rows).run g = (.error e, ((p.dataset source rows).run g).2) :=
    Prod.ext h rfl
  unfold csvFiles
  rw [StateT.run_bind, hrun]
  rfl

/-- **The files of a dataset can always be made.** -/
theorem exists_filesOf (h : ((p.dataset source rows).run g).1 = .ok d) :
    ∃ files, filesOf d = .ok files := by
  refine exists_mapM_eq_ok fun t ht => ?_
  obtain ⟨text, htext⟩ :=
    Csv.exists_render_iff.mpr (Or.inr fun row hrow => width_of_ok h ht hrow)
  exact ⟨_, bind_eq_ok.mpr ⟨text, htext, rfl⟩⟩

/-- The files that are made come from a dataset. -/
theorem exists_dataset_of_csvFiles (h : ((p.csvFiles source rows).run g).1 = .ok files) :
    ∃ d, ((p.dataset source rows).run g).1 = .ok d ∧ filesOf d = .ok files := by
  cases hd : ((p.dataset source rows).run g).1 with
  | error e => exact absurd (h.symm.trans (csvFiles_of_error hd)) nofun
  | ok d => exact ⟨d, rfl, mapError_eq_ok.mp ((csvFiles_of_ok hd).symm.trans h)⟩

variable {mode : Undeclared} {text : String}

/-- The names of the files are known before the data are. -/
theorem names_of_csvFiles (hplan : ofText mode text = .ok p)
    (hd : ((p.dataset source rows).run g).1 = .ok d) (h : filesOf d = .ok files) :
    files.map Prod.fst = p.tableNames.map (· ++ ".csv") := by
  rw [names_of_filesOf h, ← names_of_dataset (regular_ofText hplan) hd, List.map_map]
  rfl

theorem filed_of_ok (hplan : ofText mode text = .ok p)
    (hd : ((p.dataset source rows).run g).1 = .ok d) (h : filesOf d = .ok files) :
    p.Filed d files := by
  have hnames := names_of_csvFiles hplan hd h
  -- the names are known before the data, and each is a word with the ending
  have hnamed : ∀ f ∈ files, ∃ name, IsName name ∧ f.1 = name ++ ".csv" := by
    intro f hf
    have hmem : f.1 ∈ p.tableNames.map (· ++ ".csv") := hnames ▸ List.mem_map_of_mem hf
    obtain ⟨name, hname, he⟩ := List.mem_map.mp hmem
    exact ⟨name, isName_of_mem_tableNames hplan hname, he.symm⟩
  constructor
  case contents => exact filesOf_eq_ok.mp h
  case names =>
    rw [hnames, tableNames, List.map_append, List.map_map]
    rfl
  case distinct =>
    rw [hnames]
    exact (nodup_tableNames hplan).map fun a b he => (String.append_left_inj ".csv").mp he
  case named => exact hnamed
  case inside =>
    intro f hf
    obtain ⟨name, hname, he⟩ := hnamed f hf
    rw [he]
    -- a word has no slash, so the name stays in the directory wherever that is
    exact ⟨slash_not_mem_csv hname,
      fun l => CommandLine.Location.enter_ordinary (csv_ordinary name)⟩
  case notScript =>
    intro f hf
    obtain ⟨name, _, he⟩ := hnamed f hf
    rw [he]
    -- the ending tells it from the script
    exact csv_ne (by decide)
  case notModel =>
    intro f hf
    obtain ⟨name, _, he⟩ := hnamed f hf
    rw [he]
    exact csv_ne (by decide)

/--
**The files are made whenever the data are, one for each table and all of them apart.**

For every text with a plan there are files if and only if there is a dataset, and an error is that
of the data. The files are those of the entities in their order and of the join tables. No two of
them have one name, none is named like another artifact, and none can be outside of its directory.
-/
theorem csvFiles_outcome (hplan : ofText mode text = .ok p) (source : ValueSource γ) (rows : Nat)
    (g : γ) :
    ((∃ files, ((p.csvFiles source rows).run g).1 = .ok files) ↔ p.Generates source rows g) ∧
    (∀ d, ((p.dataset source rows).run g).1 = .ok d →
      ∃ files, ((p.csvFiles source rows).run g).1 = .ok files ∧ p.Filed d files) ∧
    ∀ e, ((p.dataset source rows).run g).1 = .error e →
      ((p.csvFiles source rows).run g).1 = .error (.generation e) := by
  -- all rows are as wide as their tables, so no table is refused
  have hfiled : ∀ d, ((p.dataset source rows).run g).1 = .ok d →
      ∃ files, ((p.csvFiles source rows).run g).1 = .ok files ∧ p.Filed d files := by
    intro d hd
    obtain ⟨files, hfiles⟩ := exists_filesOf hd
    exact ⟨files, (csvFiles_of_ok hd).trans (mapError_eq_ok.mpr hfiles),
      filed_of_ok hplan hd hfiles⟩
  refine ⟨⟨fun h => ?_, fun h => ?_⟩, hfiled, fun e => csvFiles_of_error⟩
  · obtain ⟨files, hfiles⟩ := h
    obtain ⟨d, hd, _⟩ := exists_dataset_of_csvFiles hfiles
    exact ⟨d, hd⟩
  · obtain ⟨d, hd⟩ := h
    obtain ⟨files, hfiles, _⟩ := hfiled d hd
    exact ⟨files, hfiles⟩

end

/-- An entity that refers to one further down in the text and is paired with it. -/
def zooText : String :=
  "entity Ape \x7b\nid : number <<generated>>\nZoo_id : number\n\x7d\n"
    ++ "entity Zoo \x7b\nid : number <<generated>>\n\x7d\nZoo ||--o\x7b Ape\nApe \x7do--o\x7b Zoo\n"

theorem csvFiles_outcome_zoo :
    ∃ p d files, ofText .synthesize zooText = .ok p ∧
      ((p.dataset (fun _ _ => return none) 1).run (SplitMix.mk [] 0)).1 = .ok d ∧
      ((p.csvFiles (fun _ _ => return none) 1).run (SplitMix.mk [] 0)).1 = .ok files ∧
      files = [("Zoo.csv", "id\n1\n"), ("Ape.csv", "id,Zoo_id\n1,1\n"),
        ("Ape_Zoo.csv", "Ape_id,Zoo_id\n1,1\n")] ∧
      p.Filed d files := by
  have heval : (ofText .synthesize zooText).toOption.any (fun p =>
      ((p.dataset (fun _ _ => return none) 1).run (SplitMix.mk [] 0)).1.toOption.any fun d =>
        decide ((filesOf d).toOption = some [("Zoo.csv", "id\n1\n"),
          ("Ape.csv", "id,Zoo_id\n1,1\n"), ("Ape_Zoo.csv", "Ape_id,Zoo_id\n1,1\n")])) = true := by
    decide +kernel
  obtain ⟨p, hplan, htest⟩ := exists_ok_of_any heval
  obtain ⟨d, hd, htest⟩ := exists_ok_of_any htest
  obtain ⟨_, hfiled, _⟩ := csvFiles_outcome hplan (fun _ _ => return none) 1 (SplitMix.mk [] 0)
  obtain ⟨files, hfiles, hnames⟩ := hfiled d hd
  refine ⟨p, d, files, hplan, hd, hfiles, ?_, hnames⟩
  have hmade := mapError_eq_ok.mp ((csvFiles_of_ok hd).symm.trans hfiles)
  have hsame := of_decide_eq_true htest
  rw [hmade] at hsame
  exact Option.some.inj hsame

end Plan

end Crowfoot
