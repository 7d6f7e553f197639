import Crowfoot.Proofs.Runs
import Crowfoot.Proofs.Warnings

/-!
# What a call lets be seen

The notes of a call go to its host. Here the host is a world that keeps them: a call gives it the
warnings about its text, or all notes if it is a verbose one, and none at all if there is no text.
Whatever else the call does, it does as in a world that keeps none.
-/

namespace Crowfoot.CommandLine

/-- A computation in a world that keeps the notes. -/
abbrev Logged := StateT (List Diagnostic) (StateM World)

namespace Logged

variable {α β : Type}

/-- What the computation does in a world that keeps no notes. -/
def unseen (x : StateM World α) : Logged α := fun log => do return (← x, log)

instance : Host Logged where
  readFile p := unseen (Host.readFile p)
  readInput := unseen Host.readInput
  makeDirectory p := unseen (Host.makeDirectory p)
  isDirectory p := unseen (Host.isDirectory p)
  writeFile p contents := unseen (Host.writeFile p contents)
  entropy := unseen Host.entropy
  note d := modify (· ++ [d])

theorem unseen_bind (x : StateM World α) (f : α → StateM World β) :
    unseen (x >>= f) = unseen x >>= fun a => unseen (f a) := rfl

theorem unseen_bind_run {x : StateM World α} {a : α} {w w' : World} (f : α → Logged β)
    (h : x.run w = (a, w')) (log : List Diagnostic) :
    ((unseen x >>= f).run log).run w = ((f a).run log).run w' := by
  show StateT.run (StateT.run (f (x.run w).1) log) (x.run w).2 = _
  rw [h]

/-! ## What is done without a note -/

theorem readBytes_unseen (i : Invocation) : (i.readBytes : Logged _) = unseen i.readBytes := by
  unfold Invocation.readBytes
  cases i.file with
  | none => rfl
  | some file => rfl

theorem readText_unseen (i : Invocation) : (i.readText : Logged _) = unseen i.readText := by
  unfold Invocation.readText
  rw [readBytes_unseen, unseen_bind]
  congr 1
  funext r
  cases r with
  | ok bytes => rfl
  | error e => rfl

theorem drawGenerator_unseen (i : Invocation) :
    (i.drawGenerator : Logged _) = unseen i.drawGenerator := by
  unfold Invocation.drawGenerator
  cases i.seed with
  | none => rfl
  | some seed => rfl

theorem ensureDirectory_unseen (p : Path) :
    (Invocation.ensureDirectory p : Logged _) = unseen (Invocation.ensureDirectory p) := by
  unfold Invocation.ensureDirectory
  rw [unseen_bind]
  congr 1
  funext r
  cases r with
  | ok _ => rfl
  | error e => rfl

theorem createDirectories_unseen (ps : List Path) :
    (Invocation.createDirectories ps : Logged _) = unseen (Invocation.createDirectories ps) := by
  induction ps with
  | nil => rfl
  | cons p around ih =>
    rw [Invocation.createDirectories, Invocation.createDirectories, ensureDirectory_unseen,
      unseen_bind]
    congr 1
    funext r
    -- only if the way to it is not there, the directories around it are made
    cases r with
    | ok _ => rfl
    | error e =>
      dsimp only
      split
      · rw [ih, unseen_bind]
        congr 1
        funext r
        cases r with
        | ok _ => rfl
        | error e => rfl
      · rfl

theorem writeFiles_unseen (out : Path) (files : List (String × String)) :
    (Invocation.writeFiles out files : Logged _) = unseen (Invocation.writeFiles out files) := by
  induction files with
  | nil => rfl
  | cons f rest ih =>
    rw [Invocation.writeFiles, Invocation.writeFiles, unseen_bind]
    congr 1
    funext r
    cases r with
    | ok _ => exact ih
    | error e => rfl

theorem writeAll_unseen (out : Path) (files : List (String × String)) :
    (Invocation.writeAll out files : Logged _) = unseen (Invocation.writeAll out files) := by
  unfold Invocation.writeAll
  rw [createDirectories_unseen, unseen_bind]
  congr 1
  funext r
  cases r with
  | ok _ => exact writeFiles_unseen out files
  | error e => rfl

/-! ## What is noted -/

/-- **A call hands over all notes if it is verbose, and else the warnings.** -/
theorem report_run (i : Invocation) (notes log : List Diagnostic) :
    (i.report notes : Logged Unit).run log =
      pure ((), log ++ if i.verbose then notes else warningsAmong notes) := by
  have hseen : (notes.filter fun d => i.verbose || d.level = .warn) =
      if i.verbose then notes else warningsAmong notes := by
    cases i.verbose with
    | true => exact List.filter_true notes
    | false => rfl
  unfold Invocation.report
  rw [hseen]
  generalize (if i.verbose then notes else warningsAmong notes) = seen
  -- what is noted already stays in front, so the log is free in the induction
  induction seen generalizing log with
  | nil =>
    rw [List.append_nil]
    rfl
  | cons d rest ih =>
    have hrest := ih (log ++ [d])
    rw [List.append_assoc, List.singleton_append] at hrest
    exact hrest

end Logged

namespace World

/-- The notes that a call hands over. -/
def seenBy (w : World) (i : Invocation) : List Diagnostic :=
  match w.textOf i with
  | .error _ => []
  | .ok text =>
    let notes := i.notes text (w.generatorOf i)
    if i.verbose then notes else warningsAmong notes

/--
**A call does the same whether or not its notes are kept, and hands them over before it writes.**
-/
theorem run_logged (i : Invocation) (w : World) (log : List Diagnostic) :
    ((i.run : Logged _).run log).run w =
      ((((i.run : StateM World _).run w).1, log ++ w.seenBy i),
        ((i.run : StateM World _).run w).2) := by
  have hread := Invocation.readText_run i w
  have hdraw := Invocation.drawGenerator_run i w
  cases htext : w.textOf i with
  | error e =>
    -- without a text there is nothing to note
    have hnone : w.seenBy i = [] := by
      unfold seenBy
      rw [htext]
    rw [Invocation.run_of_text_error htext, hnone, List.append_nil]
    rw [htext] at hread
    unfold Invocation.run
    rw [Logged.readText_unseen, Logged.unseen_bind_run _ hread]
    rfl
  | ok text =>
    have hseen : w.seenBy i = if i.verbose then i.notes text (w.generatorOf i)
        else warningsAmong (i.notes text (w.generatorOf i)) := by
      unfold seenBy
      rw [htext]
    rw [Invocation.run_of_text_ok htext, hseen]
    rw [htext] at hread
    unfold Invocation.run
    rw [Logged.readText_unseen, Logged.unseen_bind_run _ hread]
    dsimp only
    -- all notes are handed over here, and the rest of the call notes nothing
    rw [Logged.drawGenerator_unseen, Logged.unseen_bind_run _ hdraw, StateT.run_bind,
      Logged.report_run, pure_bind]
    unfold Invocation.conclude
    cases i.files text (w.generatorOf i) with
    | error e => rfl
    | ok files =>
      dsimp only
      rw [Logged.writeAll_unseen]
      rfl

end World

end Crowfoot.CommandLine
