import Crowfoot.CommandLine.Arguments
import Crowfoot.CommandLine.FileTree
import Crowfoot.Random.ChaCha
import Crowfoot.Vocabulary.Standard

/-!
# The program

The program reads a diagram, makes the artifacts asked for and writes them to a
directory. All of them are made before anything is written, so a diagram with a fault
leaves no trace. What it needs of its surroundings is asked of a host; one host is a
world of plain values.
-/

namespace Crowfoot.CommandLine

/-- What the program asks of its surroundings. -/
class Host (m : Type → Type) where
  readFile : Path → m (Except FileError ByteArray)
  readInput : m (Except FileError ByteArray)
  makeDirectory : Path → m (Except FileError Unit)
  isDirectory : Path → m Bool
  writeFile : Path → String → m (Except FileError Unit)
  /-- A key that no one can foresee. -/
  entropy : m (BitVec 256)
  note : Diagnostic → m Unit

/-- Why a text cannot be read. -/
inductive ReadError
  | file (e : FileError)
  | notText
  deriving DecidableEq, Repr

/-- The error in words. -/
def ReadError.message : ReadError → String
  | file e => e.message
  | notText => "stream did not contain valid UTF-8"

/-- Why a call fails. -/
inductive RunError
  /-- The file, or the standard input, cannot be read. -/
  | read (file : Option String) (e : ReadError)
  | plan (e : PlanError)
  | write (out : String) (e : FileError)
  deriving DecidableEq, Repr

/-- The error in words. -/
def RunError.message : RunError → String
  | read file e => "failed to read " ++ file.getD "stdin" ++ ": " ++ e.message
  | plan e => e.message
  | write out e => "failed to write " ++ out ++ ": " ++ e.message

namespace Invocation

/-! ## Artifacts -/

/-- The artifact is asked for. -/
def wants (i : Invocation) (a : Artifact) : Bool := i.formats.isEmpty || a ∈ i.formats

/-- What becomes of undeclared entities. -/
def mode (i : Invocation) : Undeclared := if i.strict then .reject else .synthesize

/-- The name of the class model: that of the file, less its extension. -/
def modelName (i : Invocation) : String :=
  ((i.file.bind fun f => (Path.ofText f).fileName?).map Path.stem).getD "model"

/-- The tables that a generator draws. -/
def generation (i : Invocation) (p : Plan) (g : ChaCha) : Generation :=
  ((p.generate Vocabulary.standard.source i.rows).run g).1

/-- The files for the data. -/
def dataFiles (i : Invocation) (p : Plan) (g : ChaCha) :
    Except PlanError (List (String × String)) :=
  ((p.csvFiles Vocabulary.standard.source i.rows).run g).1

/-- The files for all artifacts that are asked for. -/
def filesOf (i : Invocation) (p : Plan) (g : ChaCha) :
    Except PlanError (List (String × String)) := do
  let data ← if i.wants .csv then i.dataFiles p g else .ok []
  let script := if i.wants .ddl then [("schema.sql", p.sql)] else []
  let model := if i.wants .xmi then [("model.xmi", p.xmi i.modelName)] else []
  return data ++ script ++ model

/-- The files for a text. -/
def files (i : Invocation) (text : String) (g : ChaCha) :
    Except PlanError (List (String × String)) := do
  i.filesOf (← (Plan.ofText i.mode text).mapError .resolution) g

/-- What there is to note about a text. -/
def notes (i : Invocation) (text : String) (g : ChaCha) : List Diagnostic :=
  Plan.notes i.mode text
    ++ match Plan.ofText i.mode text with
      | .ok p => if i.wants .csv then (i.generation p g).notes i.rows else []
      | .error _ => []

/-! ## Running -/

variable {m : Type → Type} [Monad m] [Host m]

/-- The bytes to work on. -/
def readBytes (i : Invocation) : m (Except FileError ByteArray) :=
  match i.file with
  | none => Host.readInput
  | some file => Host.readFile (Path.ofText file)

/-- The text of the bytes that the call reads. -/
def decode (i : Invocation) (bytes : ByteArray) : Except RunError String :=
  match String.fromUTF8? bytes with
  | some text => .ok text
  | none => .error (.read i.file .notText)

/-- The text to work on. -/
def readText (i : Invocation) : m (Except RunError String) := do
  match ← i.readBytes with
  | .ok bytes => return i.decode bytes
  | .error e => return .error (.read i.file (.file e))

/-- The generator for the data: the one for the seed, or one for a key that is not known before. -/
def drawGenerator (i : Invocation) : m ChaCha := do
  match i.seed with
  | some seed => return .ofSeed seed
  | none => return .ofKey (← Host.entropy)

/-- A directory that may be there already. -/
def ensureDirectory (p : Path) : m (Except FileError Unit) := do
  match ← Host.makeDirectory p with
  | .ok () => return .ok ()
  | .error e => return if ← Host.isDirectory p then .ok () else .error e

/--
The first of the directories, of which each one holds the one in front of it. Only if
the way to it is not there, the others are made first.
-/
def createDirectories : List Path → m (Except FileError Unit)
  | [] => return .ok ()
  | p :: around => do
    match ← ensureDirectory p with
    | .ok () => return .ok ()
    | .error e =>
      if e = .notFound then
        match ← createDirectories around with
        | .ok () => ensureDirectory p
        | .error e => return .error e
      else return .error e

/-- Files in a directory, until one cannot be written. -/
def writeFiles (out : Path) : List (String × String) → m (Except FileError Unit)
  | [] => return .ok ()
  | (name, contents) :: rest => do
    match ← Host.writeFile (out.join name) contents with
    | .ok () => writeFiles out rest
    | .error e => return .error e

/-- The directory with the files in it. -/
def writeAll (out : Path) (files : List (String × String)) : m (Except FileError Unit) := do
  match ← createDirectories out.ancestors with
  | .ok () => writeFiles out files
  | .error e => return .error e

/-- The notes that the call wants to see: warnings, or all of them. -/
def report (i : Invocation) (notes : List Diagnostic) : m Unit :=
  (notes.filter fun d => i.verbose || d.level = .warn).forM Host.note

/-- The whole call. -/
def run (i : Invocation) : m (Except RunError Unit) := do
  match ← i.readText with
  | .error e => return .error e
  | .ok text =>
    -- nothing has been written yet, and nothing will be if a file cannot be made
    let g ← i.drawGenerator
    i.report (i.notes text g)
    match i.files text g with
    | .error e => return .error (.plan e)
    | .ok files => return (← writeAll (Path.ofText i.out) files).mapError (.write i.out)

end Invocation

/-! ## Outcomes -/

/-- How a run of the program ends. -/
inductive Outcome
  | help
  | usage (e : UsageError)
  | done
  | failed (e : RunError)
  deriving DecidableEq, Repr

/-- The number that tells how the run ended. -/
def Outcome.exitCode : Outcome → Nat
  | help | done => 0
  | failed _ => 1
  | usage _ => 2

/-- The line that tells why a call failed. -/
def Outcome.errorLine? : Outcome → Option String
  | failed e => some ("ERROR: " ++ e.message)
  | _ => none

/-- The program, with these arguments. -/
def program {m : Type → Type} [Monad m] [Host m] (args : List String) : m Outcome := do
  match Invocation.ofArguments args with
  | .error .help => return .help
  | .error (.usage e) => return .usage e
  | .ok i =>
    match ← i.run with
    | .ok () => return .done
    | .error e => return .failed e

/-! ## A world of plain values -/

/-- Bytes are an input that can be read. -/
instance : Coe ByteArray (Except FileError ByteArray) := ⟨.ok⟩

/-- Files, an input that may be out of reach, and the key that is used if no seed is given. -/
structure World where
  tree : FileTree
  input : Except FileError ByteArray
  entropy : BitVec 256

namespace World

/-- A change of the tree, if it succeeds. -/
def change (f : FileTree → Except FileError FileTree) : StateM World (Except FileError Unit) :=
  fun w =>
    match f w.tree with
    | .ok tree => (.ok (), { w with tree })
    | .error e => (.error e, w)

instance : Host (StateM World) where
  readFile p := return (← get).tree.read p
  readInput := return (← get).input
  makeDirectory p := change (·.makeDirectory p)
  isDirectory p := return (← get).tree.isDirectory p
  writeFile p contents := change (·.write p contents.toUTF8)
  entropy := return (← get).entropy
  note _ := return ()

/-- The outcome of the program and the world after it. -/
def run (w : World) (args : List String) : Outcome × World :=
  (program args : StateM World Outcome).run w

end World

end Crowfoot.CommandLine
