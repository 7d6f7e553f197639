import Crowfoot.CommandLine.Program
import Crowfoot.Proofs.TableFiles

/-!
# The files of the artifacts

What a call makes consists of the files of the artifacts that it asks for, and the name of a file
tells which artifact it belongs to. The files of one artifact are made from the plan alone, whatever
else is asked for. Only those of the data depend on the number of rows and the generator, and these
do not decide how the files are named.
-/

namespace Crowfoot.CommandLine

/-! ## The artifact of a file -/

namespace Artifact

/-- The artifact that a file of that name belongs to. -/
def ofFile (name : String) : Artifact :=
  if name = "schema.sql" then ddl else if name = "model.xmi" then xmi else csv

/-- The files of the artifact among others. -/
def among (a : Artifact) (files : List (String × String)) : List (String × String) :=
  files.filter fun f => ofFile f.1 = a

/-- The names of the artifact's files. -/
def fileNames (p : Plan) : Artifact → List String
  | csv => p.tableNames.map (· ++ ".csv")
  | ddl => ["schema.sql"]
  | xmi => ["model.xmi"]

variable {a b : Artifact} {files more : List (String × String)} {p : Plan} {name : String}

theorem among_append : a.among (files ++ more) = a.among files ++ a.among more :=
  List.filter_append files more

/-- Files of one artifact are all among its own, and none is among those of another. -/
theorem among_eq (h : ∀ f ∈ files, ofFile f.1 = b) :
    a.among files = if b = a then files else [] := by
  split
  · rename_i hsame
    exact List.filter_eq_self.mpr fun f hf => decide_eq_true ((h f hf).trans hsame)
  · rename_i hne
    exact List.filter_eq_nil_iff.mpr fun f hf hsame =>
      hne ((h f hf).symm.trans (of_decide_eq_true hsame))

theorem ofFile_of_mem_fileNames (h : name ∈ a.fileNames p) : ofFile name = a := by
  cases a with
  | csv =>
    obtain ⟨table, _, rfl⟩ := List.mem_map.mp h
    unfold ofFile
    rw [if_neg (csv_ne (by decide)), if_neg (csv_ne (by decide))]
  | ddl =>
    obtain rfl := List.mem_singleton.mp h
    rfl
  | xmi =>
    obtain rfl := List.mem_singleton.mp h
    rfl

theorem ordinary_of_mem_fileNames (h : name ∈ a.fileNames p) : Path.IsOrdinary name := by
  cases a with
  | csv =>
    obtain ⟨table, _, rfl⟩ := List.mem_map.mp h
    exact csv_ordinary table
  | ddl =>
    obtain rfl := List.mem_singleton.mp h
    decide
  | xmi =>
    obtain rfl := List.mem_singleton.mp h
    decide

theorem nodup_fileNames {mode : Undeclared} {text : String} (hplan : Plan.ofText mode text = .ok p)
    (a : Artifact) : (a.fileNames p).Nodup := by
  cases a with
  | csv =>
    exact (Plan.nodup_tableNames hplan).map fun _ _ he => (String.append_left_inj ".csv").mp he
  | ddl => exact List.nodup_singleton _
  | xmi => exact List.nodup_singleton _

end Artifact

namespace Invocation

variable {i i' : Invocation} {p : Plan} {g g' : ChaCha} {text : String} {a : Artifact}
  {files files' : List (String × String)}

/-! ## The files of a call -/

/-- The files of one artifact. -/
def artifactFiles (i : Invocation) (p : Plan) (g : ChaCha) :
    Artifact → Except PlanError (List (String × String))
  | .csv => i.dataFiles p g
  | .ddl => .ok [("schema.sql", p.sql)]
  | .xmi => .ok [("model.xmi", p.xmi i.modelName)]

/-- The files of one artifact, if it is asked for. -/
def wantedFiles (i : Invocation) (p : Plan) (g : ChaCha) (a : Artifact) :
    Except PlanError (List (String × String)) :=
  if i.wants a then i.artifactFiles p g a else .ok []

/-- The files are those of the artifacts that are asked for. -/
structure Makes (i : Invocation) (p : Plan) (g : ChaCha) (files : List (String × String)) :
    Prop where
  wanted : ∀ a, i.wants a = true → i.artifactFiles p g a = .ok (a.among files)
  nothingElse : ∀ a, i.wants a = false → a.among files = []
  whole : files = Artifact.csv.among files ++ Artifact.ddl.among files ++ Artifact.xmi.among files

theorem filesOf_eq (i : Invocation) (p : Plan) (g : ChaCha) :
    i.filesOf p g = (do
      let data ← i.wantedFiles p g .csv
      let script ← i.wantedFiles p g .ddl
      let model ← i.wantedFiles p g .xmi
      return data ++ script ++ model) := by
  unfold filesOf wantedFiles
  cases i.wants .csv <;> cases i.wants .ddl <;> cases i.wants .xmi <;> rfl

theorem filesOf_eq_ok : i.filesOf p g = .ok files ↔
    ∃ data script model, i.wantedFiles p g .csv = .ok data ∧
      i.wantedFiles p g .ddl = .ok script ∧ i.wantedFiles p g .xmi = .ok model ∧
      files = data ++ script ++ model := by
  rw [filesOf_eq]
  simp only [bind_eq_ok]
  constructor
  · intro h
    obtain ⟨data, hdata, script, hscript, model, hmodel, h⟩ := h
    exact ⟨data, script, model, hdata, hscript, hmodel, (Except.ok.inj h).symm⟩
  · intro h
    obtain ⟨data, script, model, hdata, hscript, hmodel, rfl⟩ := h
    exact ⟨data, hdata, script, hscript, model, hmodel, rfl⟩

theorem files_eq_ok : i.files text g = .ok files ↔
    ∃ p, Plan.ofText i.mode text = .ok p ∧ i.filesOf p g = .ok files := by
  unfold Invocation.files
  simp only [bind_eq_ok, mapError_eq_ok]

/-- The files of an artifact have the names of that artifact's files, whatever is in them. -/
theorem names_of_artifactFiles (hplan : Plan.ofText i.mode text = .ok p)
    (h : i.artifactFiles p g a = .ok files) : files.map Prod.fst = a.fileNames p := by
  cases a with
  | csv =>
    obtain ⟨d, hd, hfiles⟩ := Plan.exists_dataset_of_csvFiles h
    exact Plan.names_of_csvFiles hplan hd hfiles
  | ddl => rw [← Except.ok.inj h]; rfl
  | xmi => rw [← Except.ok.inj h]; rfl

theorem names_of_wantedFiles (hplan : Plan.ofText i.mode text = .ok p)
    (h : i.wantedFiles p g a = .ok files) :
    files.map Prod.fst = if i.wants a then a.fileNames p else [] := by
  unfold wantedFiles at h
  split at h
  · rename_i hwant
    rw [if_pos hwant]
    exact names_of_artifactFiles hplan h
  · rename_i hnot
    rw [if_neg hnot, ← Except.ok.inj h]
    rfl

theorem among_wantedFiles (hplan : Plan.ofText i.mode text = .ok p) {b : Artifact}
    (h : i.wantedFiles p g b = .ok files) : a.among files = if b = a then files else [] := by
  refine Artifact.among_eq fun f hf => ?_
  have hname : f.1 ∈ files.map Prod.fst := List.mem_map_of_mem hf
  rw [names_of_wantedFiles hplan h] at hname
  split at hname
  · exact Artifact.ofFile_of_mem_fileNames hname
  · exact absurd hname (by simp)

/-- **The files of a call are those of its artifacts, and no file belongs to two of them.** -/
theorem makes_of_filesOf (hplan : Plan.ofText i.mode text = .ok p)
    (h : i.filesOf p g = .ok files) : i.Makes p g files := by
  obtain ⟨data, script, model, hdata, hscript, hmodel, rfl⟩ := filesOf_eq_ok.mp h
  -- no file is of two artifacts, so each artifact picks its own files out of the list
  have hamong : ∀ a, i.wantedFiles p g a = .ok (a.among (data ++ script ++ model)) := by
    intro a
    rw [Artifact.among_append, Artifact.among_append, among_wantedFiles hplan hdata,
      among_wantedFiles hplan hscript, among_wantedFiles hplan hmodel]
    cases a with
    | csv => simpa using hdata
    | ddl => simpa using hscript
    | xmi => simpa using hmodel
  have hcsv := Except.ok.inj ((hamong .csv).symm.trans hdata)
  have hddl := Except.ok.inj ((hamong .ddl).symm.trans hscript)
  have hxmi := Except.ok.inj ((hamong .xmi).symm.trans hmodel)
  refine ⟨fun a hwant => ?_, fun a hnot => ?_, by rw [hcsv, hddl, hxmi]⟩
  · rw [← hamong a, wantedFiles, if_pos hwant]
  · have hnone := hamong a
    rw [wantedFiles, if_neg (by simp [hnot])] at hnone
    exact (Except.ok.inj hnone).symm

/-- The names of the files of a call. -/
def fileNames (i : Invocation) (p : Plan) : List String :=
  [Artifact.csv, .ddl, .xmi].flatMap fun a => if i.wants a then a.fileNames p else []

theorem names_of_filesOf (hplan : Plan.ofText i.mode text = .ok p)
    (h : i.filesOf p g = .ok files) : files.map Prod.fst = i.fileNames p := by
  obtain ⟨data, script, model, hdata, hscript, hmodel, rfl⟩ := filesOf_eq_ok.mp h
  rw [List.map_append, List.map_append, names_of_wantedFiles hplan hdata,
    names_of_wantedFiles hplan hscript, names_of_wantedFiles hplan hmodel]
  simp [fileNames]

theorem exists_artifact_of_mem {name : String} (h : name ∈ i.fileNames p) :
    ∃ a, i.wants a = true ∧ name ∈ a.fileNames p := by
  obtain ⟨a, _, hname⟩ := List.mem_flatMap.mp h
  split at hname
  · rename_i hwant
    exact ⟨a, hwant, hname⟩
  · exact absurd hname (by simp)

/-- No two files of a call have one name. -/
theorem nodup_fileNames (hplan : Plan.ofText i.mode text = .ok p) : (i.fileNames p).Nodup := by
  refine List.nodup_flatMap.mpr ⟨fun a _ => ?_, ?_⟩
  · split
    · exact Artifact.nodup_fileNames hplan a
    · exact List.nodup_nil
  · -- the name of a file tells its artifact
    have hapart : ∀ a b : Artifact, a ≠ b → Function.onFun List.Disjoint
        (fun a : Artifact => if i.wants a then a.fileNames p else []) a b := by
      intro a b hne name ha hb
      refine hne ?_
      dsimp only at ha hb
      split at ha <;> split at hb
      · exact (Artifact.ofFile_of_mem_fileNames ha).symm.trans (Artifact.ofFile_of_mem_fileNames hb)
      · exact absurd hb (by simp)
      · exact absurd ha (by simp)
      · exact absurd ha (by simp)
    have hdifferent : [Artifact.csv, .ddl, .xmi].Nodup := by decide
    exact hdifferent.imp fun hne => hapart _ _ hne

/-! ## Two calls -/

/-- The formats matter as a set only. -/
theorem wants_congr (h : ∀ a, a ∈ i'.formats ↔ a ∈ i.formats) (a : Artifact) :
    i'.wants a = i.wants a := by
  have hempty : i'.formats.isEmpty = i.formats.isEmpty := by
    rw [Bool.eq_iff_iff, List.isEmpty_iff, List.isEmpty_iff, List.eq_nil_iff_forall_not_mem,
      List.eq_nil_iff_forall_not_mem]
    exact forall_congr' fun b => not_congr (h b)
  unfold wants
  rw [hempty, decide_eq_decide.mpr (h a)]

/-- An artifact's files are made of the plan, the name of the model, the rows and the generator. -/
theorem artifactFiles_congr (hfile : i'.file = i.file)
    (hdata : a = .csv → i'.rows = i.rows ∧ g' = g) :
    i'.artifactFiles p g' a = i.artifactFiles p g a := by
  cases a with
  | csv =>
    obtain ⟨hrows, rfl⟩ := hdata rfl
    unfold artifactFiles dataFiles
    rw [hrows]
  | ddl => rfl
  | xmi =>
    unfold artifactFiles modelName
    rw [hfile]

/--
**No artifact depends on what else is asked for.**

Take two calls for one text in one mode, both of which succeed. Both make the files of a plan. An
artifact that both ask for has the same files with the same contents, the data if the rows and the
generator are the same and the others whatever these are. If the calls ask for the same artifacts,
their files have the same names in the same order, and they do if their formats are the same ones,
in whatever order and however often.
-/
theorem artifacts_independent (hfile : i'.file = i.file) (hstrict : i'.strict = i.strict)
    (h : i.files text g = .ok files) (h' : i'.files text g' = .ok files') :
    (∃ p, Plan.ofText i.mode text = .ok p ∧ i.Makes p g files ∧ i'.Makes p g' files') ∧
    (∀ a, i.wants a = true → i'.wants a = true →
      (a = .csv → i'.rows = i.rows ∧ g' = g) → a.among files' = a.among files) ∧
    ((∀ a, i'.wants a = i.wants a) → files'.map Prod.fst = files.map Prod.fst) ∧
    ((∀ a, i'.wants a = i.wants a) → i'.rows = i.rows → g' = g → files' = files) ∧
    ((∀ a, a ∈ i'.formats ↔ a ∈ i.formats) → ∀ a, i'.wants a = i.wants a) := by
  obtain ⟨p, hplan, hfiles⟩ := files_eq_ok.mp h
  obtain ⟨p', hplan', hfiles'⟩ := files_eq_ok.mp h'
  have hmode : i'.mode = i.mode := by
    unfold mode
    rw [hstrict]
  -- the plan does not depend on what the calls differ in
  obtain rfl : p' = p := Except.ok.inj (hplan'.symm.trans (hmode ▸ hplan))
  have hmakes := makes_of_filesOf hplan hfiles
  have hmakes' := makes_of_filesOf hplan' hfiles'
  -- what belongs to an artifact is made of what the two calls have in common
  have hsame : ∀ a, i.wants a = true → i'.wants a = true →
      (a = .csv → i'.rows = i.rows ∧ g' = g) → a.among files' = a.among files := by
    intro a hwant hwant' hdata
    have heq := artifactFiles_congr (p := p') hfile hdata
    rw [hmakes.wanted a hwant, hmakes'.wanted a hwant'] at heq
    exact Except.ok.inj heq
  refine ⟨⟨p', hplan, hmakes, hmakes'⟩, hsame, fun hwants => ?_, fun hwants hrows hdrawn => ?_,
    wants_congr⟩
  · rw [names_of_filesOf hplan hfiles, names_of_filesOf hplan' hfiles']
    unfold fileNames
    simp only [hwants]
  · have hall : ∀ a : Artifact, a.among files' = a.among files := by
      intro a
      cases hwant : i.wants a with
      | true => exact hsame a hwant ((hwants a).trans hwant) fun _ => ⟨hrows, hdrawn⟩
      | false => rw [hmakes.nothingElse a hwant, hmakes'.nothingElse a ((hwants a).trans hwant)]
    rw [hmakes.whole, hmakes'.whole, hall, hall, hall]

/-- An entity with a key and nothing else. -/
def keyText : String := "entity A \x7b\nid : number <<generated>>\n\x7d\n"

/-- A call for two artifacts, one of them twice. -/
def someFormats : Invocation := ⟨none, "out", 2, none, [.xmi, .csv, .xmi], false, false⟩

/-- A call for all artifacts, with more rows. -/
def allFormats : Invocation := ⟨none, "all", 3, some 7, [], false, true⟩

theorem artifacts_independent_formats :
    ∃ files files', someFormats.files keyText (.ofSeed 0) = .ok files ∧
      allFormats.files keyText (.ofSeed 7) = .ok files' ∧
      files.map Prod.fst = ["A.csv", "model.xmi"] ∧
      files'.map Prod.fst = ["A.csv", "schema.sql", "model.xmi"] ∧
      Artifact.xmi.among files' = Artifact.xmi.among files ∧
      Artifact.csv.among files = [("A.csv", "id\n1\n2\n")] ∧
      Artifact.csv.among files' = [("A.csv", "id\n1\n2\n3\n")] := by
  have heval : (someFormats.files keyText (.ofSeed 0)).toOption.any (fun files =>
      (allFormats.files keyText (.ofSeed 7)).toOption.any fun files' =>
        decide (files.map Prod.fst = ["A.csv", "model.xmi"] ∧
          files'.map Prod.fst = ["A.csv", "schema.sql", "model.xmi"] ∧
          Artifact.csv.among files = [("A.csv", "id\n1\n2\n")] ∧
          Artifact.csv.among files' = [("A.csv", "id\n1\n2\n3\n")])) = true := by
    decide +kernel
  obtain ⟨files, hfiles, htest⟩ := exists_ok_of_any heval
  obtain ⟨files', hfiles', htest⟩ := exists_ok_of_any htest
  obtain ⟨hnames, hnames', hdata, hdata'⟩ := of_decide_eq_true htest
  have hfile : allFormats.file = someFormats.file := rfl
  have hstrict : allFormats.strict = someFormats.strict := rfl
  obtain ⟨_, hsame, _⟩ := artifacts_independent hfile hstrict hfiles hfiles'
  exact ⟨files, files', hfiles, hfiles', hnames, hnames',
    hsame .xmi (by decide) (by decide) nofun, hdata, hdata'⟩

end Invocation

end Crowfoot.CommandLine
