import Crowfoot.Proofs.Artifacts

/-!
# What a run changes

A run reads, makes its files and only then changes the tree. So a call that cannot be read, has no
plan or has no data leaves the world as it was. A call that succeeds has put each of its files in
the output directory. Besides, directories may have been made on the way to that one, and nothing
else has changed.
-/

namespace Crowfoot.CommandLine

variable {i : Invocation} {w w' : World} {text : String} {p : Plan} {g : ChaCha}
  {files : List (String × String)} {path : Path} {paths : List Path}

/-! ## What a call reads -/

namespace World

/-- The bytes that the call reads. -/
def bytes (w : World) (i : Invocation) : Except FileError ByteArray :=
  match i.file with
  | none => w.input
  | some file => w.tree.read (Path.ofText file)

/-- The text that the call reads, or why it cannot. -/
def textOf (w : World) (i : Invocation) : Except RunError String :=
  match w.bytes i with
  | .ok bytes => i.decode bytes
  | .error e => .error (.read i.file (.file e))

/-- The generator of the call's data. -/
def generatorOf (w : World) (i : Invocation) : ChaCha := i.seed.elim (.ofKey w.entropy) .ofSeed

/-- Why the call fails before it writes. -/
inductive Refuses (w : World) (i : Invocation) : RunError → Prop
  | file {e : FileError} (h : w.bytes i = .error e) : Refuses w i (.read i.file (.file e))
  | notText {bytes : ByteArray} (h : w.bytes i = .ok bytes)
      (hnot : String.fromUTF8? bytes = none) : Refuses w i (.read i.file .notText)
  | plan {text : String} {e : ResolutionError} (h : w.textOf i = .ok text)
      (hplan : Plan.ofText i.mode text = .error e) : Refuses w i (.plan (.resolution e))
  /-- An artifact that is asked for cannot be made. -/
  | artifact {text : String} {p : Plan} {a : Artifact} {e : PlanError}
      (h : w.textOf i = .ok text) (hplan : Plan.ofText i.mode text = .ok p)
      (hwant : i.wants a = true) (hmade : i.artifactFiles p (w.generatorOf i) a = .error e) :
      Refuses w i (.plan e)

/-- The files are in the output directory, and nothing else has changed but that it is there. -/
structure Written (w after : World) (i : Invocation) (files : List (String × String)) : Prop where
  read : ∀ f ∈ files, after.tree.read ((Path.ofText i.out).join f.1) = .ok f.2.toUTF8
  held : ∀ f ∈ files,
    after.tree.node? (f.1 :: (Path.ofText i.out).place) = some (.file f.2.toUTF8)
  /-- What is new is the output directory or one on the way to it. -/
  others : ∀ l, (∀ f ∈ files, l ≠ f.1 :: (Path.ofText i.out).place) →
    after.tree.node? l = w.tree.node? l ∨ w.tree.node? l = none ∧
      after.tree.node? l = some .directory ∧ ∃ q ∈ (Path.ofText i.out).ancestors, l = q.place

theorem textOf_eq_error {e : RunError} : w.textOf i = .error e ↔
    (∃ e', w.bytes i = .error e' ∧ e = .read i.file (.file e')) ∨
    ∃ bytes, w.bytes i = .ok bytes ∧ String.fromUTF8? bytes = none ∧
      e = .read i.file .notText := by
  unfold textOf Invocation.decode
  cases w.bytes i with
  | error e' => simp [eq_comm]
  | ok bytes => cases hd : String.fromUTF8? bytes <;> simp [hd, eq_comm]

end World

namespace Invocation

/-! ## What a call makes -/

/-- Only the data can keep the files from being made. -/
theorem filesOf_eq_error {e : PlanError} : i.filesOf p g = .error e ↔
    ∃ a, i.wants a = true ∧ i.artifactFiles p g a = .error e := by
  -- the script and the model are always made
  have hmade : ∀ a, a ≠ .csv → ∃ files, i.wantedFiles p g a = .ok files := by
    intro a hne
    unfold wantedFiles
    cases a with
    | csv => exact absurd rfl hne
    | ddl => split <;> exact ⟨_, rfl⟩
    | xmi => split <;> exact ⟨_, rfl⟩
  obtain ⟨script, hscript⟩ := hmade .ddl nofun
  obtain ⟨model, hmodel⟩ := hmade .xmi nofun
  have hdata : i.filesOf p g = .error e ↔ i.wantedFiles p g .csv = .error e := by
    rw [filesOf_eq]
    cases i.wantedFiles p g .csv with
    | error e' => exact Iff.rfl
    | ok data =>
      rw [hscript, hmodel]
      exact ⟨fun h => absurd h nofun, fun h => absurd h nofun⟩
  rw [hdata]
  unfold wantedFiles
  constructor
  · intro h
    split at h
    · rename_i hwant
      exact ⟨.csv, hwant, h⟩
    · exact absurd h nofun
  · intro h
    obtain ⟨a, hwant, h⟩ := h
    cases a with
    | csv => rw [if_pos hwant, h]
    | ddl => exact absurd h nofun
    | xmi => exact absurd h nofun

theorem files_eq_error {e : PlanError} : i.files text g = .error e ↔
    (∃ e', Plan.ofText i.mode text = .error e' ∧ e = .resolution e') ∨
    ∃ p, Plan.ofText i.mode text = .ok p ∧
      ∃ a, i.wants a = true ∧ i.artifactFiles p g a = .error e := by
  unfold Invocation.files
  simp only [← filesOf_eq_error, bind_eq_error, mapError_eq_ok]
  cases Plan.ofText i.mode text with
  | error e' => simp [Except.mapError, eq_comm]
  | ok p => simp [Except.mapError]

/-- **A call is refused if it has no text or no files.** -/
theorem refuses_iff {e : RunError} : w.Refuses i e ↔
    w.textOf i = .error e ∨
      ∃ text e', w.textOf i = .ok text ∧ i.files text (w.generatorOf i) = .error e' ∧
        e = .plan e' := by
  rw [World.textOf_eq_error]
  simp only [files_eq_error]
  constructor
  · intro h
    cases h with
    | file h => exact Or.inl (Or.inl ⟨_, h, rfl⟩)
    | notText h hnot => exact Or.inl (Or.inr ⟨_, h, hnot, rfl⟩)
    | plan h hplan => exact Or.inr ⟨_, _, h, Or.inl ⟨_, hplan, rfl⟩, rfl⟩
    | artifact h hplan hwant hmade =>
      exact Or.inr ⟨_, _, h, Or.inr ⟨_, hplan, _, hwant, hmade⟩, rfl⟩
  · -- each failure of the text or the files is one of the four reasons
    intro h
    rcases h with (⟨_, h, rfl⟩ | ⟨_, h, hnot, rfl⟩) | ⟨_, _, h, ⟨_, hplan, rfl⟩ |
      ⟨_, hplan, _, hwant, hmade⟩, rfl⟩
    · exact .file h
    · exact .notText h hnot
    · exact .plan h hplan
    · exact .artifact h hplan hwant hmade

/-! ## Up to the writing -/

theorem run_bind_eq {α β : Type} {x : StateM World α} {f : α → StateM World β} {a : α}
    (h : x.run w = (a, w')) : (x >>= f).run w = (f a).run w' := by
  rw [StateT.run_bind, h]
  rfl

theorem readBytes_run (i : Invocation) (w : World) :
    (i.readBytes : StateM World _).run w = (w.bytes i, w) := by
  unfold Invocation.readBytes World.bytes
  cases i.file with
  | none => rfl
  | some file => rfl

theorem readText_run (i : Invocation) (w : World) :
    (i.readText : StateM World _).run w = (w.textOf i, w) := by
  unfold Invocation.readText World.textOf
  rw [run_bind_eq (readBytes_run i w)]
  cases w.bytes i with
  | ok bytes => rfl
  | error e => rfl

theorem drawGenerator_run (i : Invocation) (w : World) :
    (i.drawGenerator : StateM World _).run w = (w.generatorOf i, w) := by
  unfold Invocation.drawGenerator World.generatorOf
  cases i.seed with
  | none => rfl
  | some seed => rfl

theorem report_run (i : Invocation) (notes : List Diagnostic) (w : World) :
    (i.report notes : StateM World Unit).run w = ((), w) := by
  unfold Invocation.report
  induction notes.filter fun d => i.verbose || d.level = .warn with
  | nil => rfl
  | cons d rest ih => exact ih

/-- What a call does once its files are made, or cannot be. -/
def conclude (i : Invocation) (made : Except PlanError (List (String × String))) :
    StateM World (Except RunError Unit) := do
  match made with
  | .error e => return .error (.plan e)
  | .ok files => return (← writeAll (Path.ofText i.out) files).mapError (.write i.out)

theorem run_of_text_error {e : RunError} (h : w.textOf i = .error e) :
    (i.run : StateM World _).run w = (.error e, w) := by
  have hread : (i.readText : StateM World _).run w = (.error e, w) := by rw [readText_run, h]
  unfold Invocation.run
  rw [run_bind_eq hread]
  rfl

theorem run_of_text_ok (h : w.textOf i = .ok text) :
    (i.run : StateM World _).run w = (i.conclude (i.files text (w.generatorOf i))).run w := by
  have hread : (i.readText : StateM World _).run w = (.ok text, w) := by rw [readText_run, h]
  unfold Invocation.run
  rw [run_bind_eq hread]
  dsimp only
  rw [run_bind_eq (drawGenerator_run i w),
    run_bind_eq (report_run i (i.notes text (w.generatorOf i)) w)]
  rfl

/-! ## The writing -/

theorem change_run (f : FileTree → Except FileError FileTree) (w : World) :
    (∃ t, f w.tree = .ok t ∧ (World.change f).run w = (.ok (), { w with tree := t })) ∨
    ∃ e, (World.change f).run w = (.error e, w) := by
  cases h : f w.tree with
  | ok t =>
    refine Or.inl ⟨t, rfl, ?_⟩
    show World.change f w = _
    unfold World.change
    rw [h]
  | error e =>
    refine Or.inr ⟨e, ?_⟩
    show World.change f w = _
    unfold World.change
    rw [h]

theorem writeFile_run (path : Path) (contents : String) (w : World) :
    (∃ t, w.tree.write path contents.toUTF8 = .ok t ∧
      (Host.writeFile path contents : StateM World _).run w = (.ok (), { w with tree := t })) ∨
    ∃ e, (Host.writeFile path contents : StateM World _).run w = (.error e, w) :=
  change_run (·.write path contents.toUTF8) w

theorem makeDirectory_run (path : Path) (w : World) :
    (∃ t, w.tree.makeDirectory path = .ok t ∧
      (Host.makeDirectory path : StateM World _).run w = (.ok (), { w with tree := t })) ∨
    ∃ e, (Host.makeDirectory path : StateM World _).run w = (.error e, w) :=
  change_run (·.makeDirectory path) w

/-- Whatever the world is, nothing is changed but that there are directories for the paths. -/
def OnlyMakes {α : Type} (paths : List Path) (x : StateM World α) : Prop :=
  ∀ w, FileTree.Grown paths w.tree (x.run w).2.tree

theorem onlyMakes_pure {α : Type} (a : α) : OnlyMakes paths (pure a) :=
  fun w => .refl paths w.tree

theorem OnlyMakes.bind {α β : Type} {x : StateM World α} {f : α → StateM World β}
    (hx : OnlyMakes paths x) (hf : ∀ a, OnlyMakes paths (f a)) : OnlyMakes paths (x >>= f) :=
  fun w => (hx w).trans (hf _ _)

theorem makeDirectory_onlyMakes (hp : path ∈ paths) :
    OnlyMakes paths (Host.makeDirectory path : StateM World _) := by
  intro w
  rcases makeDirectory_run path w with ⟨t, ht, hrun⟩ | ⟨e, hrun⟩
  · rw [hrun]
    exact FileTree.makeDirectory_ok ht hp
  · rw [hrun]
    exact .refl paths w.tree

theorem ensureDirectory_onlyMakes (hp : path ∈ paths) :
    OnlyMakes paths (ensureDirectory path : StateM World _) := by
  refine (makeDirectory_onlyMakes hp).bind fun r => ?_
  cases r with
  | ok _ => exact onlyMakes_pure _
  | error e =>
    refine OnlyMakes.bind (fun w => .refl paths w.tree) fun there => ?_
    cases there with
    | true => exact onlyMakes_pure _
    | false => exact onlyMakes_pure _

/-- **The way to the output directory is made of new directories and nothing else.** -/
theorem createDirectories_onlyMakes {wanted : List Path} (h : wanted ⊆ paths) :
    OnlyMakes paths (createDirectories wanted : StateM World _) := by
  induction wanted with
  | nil => exact onlyMakes_pure _
  | cons p around ih =>
    have hp := ensureDirectory_onlyMakes (h (List.mem_cons_self ..))
    refine hp.bind fun r => ?_
    cases r with
    | ok _ => exact onlyMakes_pure _
    | error e =>
      dsimp only
      split
      · -- the way to the directory is made first, and then the directory once more
        refine (ih fun q hq => h (List.mem_cons_of_mem p hq)).bind fun r => ?_
        cases r with
        | ok _ => exact hp
        | error e => exact onlyMakes_pure _
      · exact onlyMakes_pure _

/-- **Files of different names are all there in the end, and nothing else has changed.** -/
theorem writeFiles_ok {out : Path} (hordinary : ∀ f ∈ files, Path.IsOrdinary f.1)
    (hnodup : (files.map Prod.fst).Nodup)
    (h : (writeFiles out files : StateM World _).run w = (.ok (), w')) :
    FileTree.Put out files w.tree w'.tree := by
  induction files generalizing w with
  | nil =>
    obtain rfl : w = w' := congrArg Prod.snd h
    exact FileTree.put_nil out w.tree
  | cons f rest ih =>
    obtain ⟨hname, hrest⟩ := List.forall_mem_cons.mp hordinary
    obtain ⟨hnew, hdistinct⟩ := List.nodup_cons.mp hnodup
    rw [writeFiles] at h
    -- each file is one more change of the tree, and no later file has its name
    rcases writeFile_run (out.join f.1) f.2 w with ⟨t, ht, hrun⟩ | ⟨e, hrun⟩
    · rw [run_bind_eq hrun] at h
      exact FileTree.put_cons hname hnew ht (ih hrest hdistinct h)
    · rw [run_bind_eq hrun] at h
      exact absurd (congrArg Prod.fst h) nofun

/-- What is written is written into the output directory. -/
theorem written_of_writeAll (hordinary : ∀ f ∈ files, Path.IsOrdinary f.1)
    (hnodup : (files.map Prod.fst).Nodup)
    (h : (writeAll (Path.ofText i.out) files : StateM World _).run w = (.ok (), w')) :
    w.Written w' i files := by
  have hgrown := createDirectories_onlyMakes (List.Subset.refl (Path.ofText i.out).ancestors) w
  unfold writeAll at h
  cases hmade : (createDirectories (Path.ofText i.out).ancestors : StateM World _).run w with
  | mk r w₁ =>
    rw [hmade] at hgrown
    rw [run_bind_eq hmade] at h
    cases r with
    | error e => exact absurd (congrArg Prod.fst h) nofun
    | ok _ =>
      -- what no file touches is as it was when the directories had been made
      have hput := writeFiles_ok hordinary hnodup h
      refine ⟨fun f hf => hput.read hf, hput.held, fun l hl => ?_⟩
      rw [hput.others l hl]
      exact hgrown l

theorem ordinary_of_filesOf (hplan : Plan.ofText i.mode text = .ok p)
    (h : i.filesOf p g = .ok files) {f : String × String} (hf : f ∈ files) :
    Path.IsOrdinary f.1 := by
  have hname : f.1 ∈ i.fileNames p := names_of_filesOf hplan h ▸ List.mem_map_of_mem hf
  obtain ⟨_, _, hname⟩ := exists_artifact_of_mem hname
  exact Artifact.ordinary_of_mem_fileNames hname

/-- A call without a fault in its text ends well or with a fault in the writing. -/
theorem conclude_cases (i : Invocation) (files : List (String × String)) (w : World) :
    (∃ w', (i.conclude (.ok files)).run w = (.ok (), w') ∧
      (writeAll (Path.ofText i.out) files : StateM World _).run w = (.ok (), w')) ∨
    ∃ e w', (i.conclude (.ok files)).run w = (.error (.write i.out e), w') := by
  cases hwrite : (writeAll (Path.ofText i.out) files : StateM World _).run w with
  | mk r w' =>
    unfold conclude
    dsimp only
    rw [run_bind_eq hwrite]
    cases r with
    | ok _ => exact Or.inl ⟨w', rfl, rfl⟩
    | error e => exact Or.inr ⟨e, w', rfl⟩

/-- **A call that is refused does nothing.** -/
theorem run_of_refuses {e : RunError} (h : w.Refuses i e) :
    (i.run : StateM World _).run w = (.error e, w) := by
  rcases refuses_iff.mp h with htext | ⟨text, e', htext, hmade, rfl⟩
  · exact run_of_text_error htext
  · rw [run_of_text_ok htext, hmade]
    rfl

/-- A call is refused, or it writes what it makes, or the writing fails. -/
theorem run_cases (i : Invocation) (w : World) :
    (∃ e, w.Refuses i e) ∨
    (∃ text p files w', w.textOf i = .ok text ∧ Plan.ofText i.mode text = .ok p ∧
      i.Makes p (w.generatorOf i) files ∧ w.Written w' i files ∧
      (i.run : StateM World _).run w = (.ok (), w')) ∨
    ∃ e w', (i.run : StateM World _).run w = (.error (.write i.out e), w') := by
  cases htext : w.textOf i with
  | error e => exact Or.inl ⟨e, refuses_iff.mpr (Or.inl htext)⟩
  | ok text =>
    rw [run_of_text_ok htext]
    cases hmade : i.files text (w.generatorOf i) with
    | error e => exact Or.inl ⟨.plan e, refuses_iff.mpr (Or.inr ⟨text, e, htext, hmade, rfl⟩)⟩
    | ok files =>
      rcases conclude_cases i files w with ⟨w', hrun, hwrite⟩ | ⟨e, w', hrun⟩
      · obtain ⟨p, hplan, hfiles⟩ := files_eq_ok.mp hmade
        -- the names of the files are different, so none is written over
        have hnodup : (files.map Prod.fst).Nodup :=
          names_of_filesOf hplan hfiles ▸ nodup_fileNames hplan
        have hwritten := written_of_writeAll
          (fun f hf => ordinary_of_filesOf hplan hfiles hf) hnodup hwrite
        exact Or.inr (Or.inl ⟨text, p, files, w', rfl, hplan, makes_of_filesOf hplan hfiles,
          hwritten, hrun⟩)
      · exact Or.inr (Or.inr ⟨e, w', hrun⟩)

end Invocation

namespace World

theorem run_eq {args : List String} (h : Invocation.ofArguments args = .ok i) (w : World) :
    w.run args = match (i.run : StateM World _).run w with
      | (.ok (), w') => (.done, w')
      | (.error e, w') => (.failed e, w') := by
  cases hrun : (i.run : StateM World _).run w with
  | mk r w' =>
    unfold World.run program
    rw [h]
    dsimp only
    rw [Invocation.run_bind_eq hrun]
    cases r with
    | ok _ => rfl
    | error e => rfl

/--
**A call that is refused does nothing, and one that succeeds does what it should and nothing else.**

A call is refused if it cannot be read, has no plan, or asks for an artifact that cannot be made.
Then the program fails with that error and leaves the world as it was. If the program ends with 0,
the files of the artifacts that were asked for are in the output directory, and every other file is
as it was. Any failure but a refusal is one of the writing.
-/
theorem run_outcome {args : List String} (h : Invocation.ofArguments args = .ok i) (w : World) :
    (∀ e, w.Refuses i e → (w.run args).1 = .failed e ∧ (w.run args).1.exitCode = 1 ∧
      (w.run args).2 = w) ∧
    ((w.run args).1.exitCode = 0 → ∃ text p files, w.textOf i = .ok text ∧
      Plan.ofText i.mode text = .ok p ∧ i.Makes p (w.generatorOf i) files ∧
      w.Written (w.run args).2 i files) ∧
    ∀ e, (w.run args).1 = .failed e → w.Refuses i e ∨ ∃ e', e = .write i.out e' := by
  -- a refused run is known as a whole: its error and the same world
  have hrefusal : ∀ e, w.Refuses i e → w.run args = (.failed e, w) := by
    intro e hrefused
    rw [run_eq h, Invocation.run_of_refuses hrefused]
  refine ⟨fun e hrefused => ?_, ?_⟩
  · rw [hrefusal e hrefused]
    exact ⟨rfl, rfl, rfl⟩
  · rcases i.run_cases w with ⟨e, hrefused⟩ |
      ⟨text, p, files, w', htext, hplan, hmakes, hwritten, hrun⟩ | ⟨e, w', hrun⟩
    · rw [hrefusal e hrefused]
      exact ⟨fun hzero => absurd hzero nofun,
        fun e' he => Or.inl (Outcome.failed.inj he ▸ hrefused)⟩
    · rw [run_eq h, hrun]
      exact ⟨fun _ => ⟨text, p, files, htext, hplan, hmakes, hwritten⟩,
        fun e he => absurd he nofun⟩
    · rw [run_eq h, hrun]
      exact ⟨fun hzero => absurd hzero nofun,
        fun e' he => Or.inr ⟨e, (Outcome.failed.inj he).symm⟩⟩

/-- A file with one entity, and an input that pairs two entities without keys. -/
def pairWorld : World :=
  ⟨.ofFiles [("d.puml", Invocation.keyText.toUTF8)], "A \x7do--o\x7b B\n".toUTF8, 0⟩

/-- A call for the script and the model of the file. -/
def fileCall : Invocation := ⟨some "d.puml", "o/p", 4, none, [.ddl, .xmi], false, false⟩

/-- A call for all artifacts of the input, of which only the data cannot be made. -/
def inputCall : Invocation := ⟨none, "out", 2, none, [], false, false⟩

theorem run_outcome_pair :
    (∃ p, Plan.ofText .synthesize Invocation.keyText = .ok p ∧
      (pairWorld.run ["d.puml", "-f", "ddl,xmi", "-o", "o/p"]).2.tree.read
        (Path.ofText "o/p/schema.sql") = .ok p.sql.toUTF8) ∧
    (pairWorld.run ["-n", "2"]).1 =
      .failed (.plan (.generation (.missingParentKey "A_B" "A_id" "A"))) ∧
    (pairWorld.run ["-n", "2"]).2 = pairWorld ∧
    (({ pairWorld with input := .error .isDirectory }).run ["-n", "2"]).1 =
      .failed (.read none (.file .isDirectory)) := by
  have hfile : Invocation.ofArguments ["d.puml", "-f", "ddl,xmi", "-o", "o/p"] = .ok fileCall := by
    decide +kernel
  have hinput : Invocation.ofArguments ["-n", "2"] = .ok inputCall := by decide +kernel
  constructor
  · have hdone : (pairWorld.run ["d.puml", "-f", "ddl,xmi", "-o", "o/p"]).1.exitCode = 0 := by
      decide +kernel
    have htext : pairWorld.textOf fileCall = .ok Invocation.keyText := by decide +kernel
    obtain ⟨_, hwrites, _⟩ := run_outcome hfile pairWorld
    obtain ⟨text, p, files, htext', hplan, hmakes, hwritten⟩ := hwrites hdone
    obtain rfl := Except.ok.inj (htext.symm.trans htext')
    have hscript : [("schema.sql", p.sql)] = Artifact.ddl.among files :=
      Except.ok.inj (hmakes.wanted .ddl (by decide))
    have hmem : ("schema.sql", p.sql) ∈ Artifact.ddl.among files :=
      hscript ▸ List.mem_singleton_self _
    have hpath : (Path.ofText fileCall.out).join "schema.sql" = Path.ofText "o/p/schema.sql" := by
      decide +kernel
    have hread := hwritten.read _ (List.mem_of_mem_filter hmem)
    rw [hpath] at hread
    exact ⟨p, hplan, hread⟩
  · have htext : pairWorld.textOf inputCall = .ok "A \x7do--o\x7b B\n" := by decide +kernel
    have heval : (Plan.ofText .synthesize "A \x7do--o\x7b B\n").toOption.any (fun p =>
        decide (inputCall.artifactFiles p (.ofKey 0) .csv =
          .error (.generation (.missingParentKey "A_B" "A_id" "A")))) = true := by
      decide +kernel
    obtain ⟨p, hplan, htest⟩ := exists_ok_of_any heval
    obtain ⟨hrefused, _⟩ := run_outcome hinput pairWorld
    have hrefuses : pairWorld.Refuses inputCall
        (.plan (.generation (.missingParentKey "A_B" "A_id" "A"))) :=
      .artifact htext hplan (by decide) (of_decide_eq_true htest)
    obtain ⟨hfailed, _, hsame⟩ := hrefused _ hrefuses
    obtain ⟨hunread, _⟩ := run_outcome hinput { pairWorld with input := .error .isDirectory }
    exact ⟨hfailed, hsame, (hunread _ (.file rfl)).1⟩

end World

end Crowfoot.CommandLine
