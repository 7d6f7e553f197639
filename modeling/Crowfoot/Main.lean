import Crowfoot.CommandLine.Program

/-!
# The command line

The program in the real world: the host is the operating system.
-/

namespace Crowfoot.CommandLine

/-- The number that comes with an error, which may be the negative of the system's. -/
def rawCode : IO.Error → UInt32
  | .alreadyExists _ code _ | .otherError code _ | .resourceBusy code _
  | .resourceVanished code _ | .unsupportedOperation code _ | .hardwareFault code _
  | .unsatisfiedConstraints code _ | .illegalOperation code _ | .protocolError code _
  | .timeExpired code _ | .interrupted _ code _ | .noFileOrDirectory _ code _
  | .invalidArgument _ code _ | .permissionDenied _ code _ | .resourceExhausted _ code _
  | .inappropriateType _ code _ | .noSuchThing _ code _ => code
  | .unexpectedEof | .userError _ => 0

/-- The system's number for an error. -/
def systemCode (e : IO.Error) : Nat := min (rawCode e).toNat (-rawCode e).toNat

/-- The words for the errors that are likely with files. -/
def systemReasons : List (Nat × String) := [
  (1, "Operation not permitted"), (13, "Permission denied"), (28, "No space left on device"),
  (30, "Read-only file system")]

/-- What the system says about a file. -/
def FileError.ofSystem (e : IO.Error) : FileError :=
  let code := systemCode e
  let known := [notFound, alreadyThere, notDirectory, isDirectory, nameTooLong]
  match known.find? (·.code = code) with
  | some error => error
  | none => ⟨(systemReasons.lookup code).getD e.toString, code⟩

/-- The result of an action, or what the system says about its failure. -/
def attempt {α : Type} (action : IO α) : IO (Except FileError α) := do
  try
    return .ok (← action)
  catch e =>
    return .error (.ofSystem e)

/-- All bytes of a stream. -/
partial def drain (input : IO.FS.Stream) (bytes : ByteArray) : IO ByteArray := do
  let more ← input.read 65536
  if more.isEmpty then return bytes else drain input (bytes ++ more)

/-- A diagnostic in one line. -/
def renderNote (d : Diagnostic) : String :=
  let field := fun
    | (name, FieldValue.text s) => " " ++ name ++ "=" ++ s
    | (name, FieldValue.number n) => " " ++ name ++ "=" ++ n.repr
  d.level.name ++ " " ++ d.message ++ String.join (d.fields.map field)

instance : Host IO where
  readFile p := attempt (IO.FS.readBinFile p.text)
  readInput := attempt do drain (← IO.getStdin) ByteArray.empty
  makeDirectory p := attempt (IO.FS.createDir p.text)
  isDirectory p := do
    match ← attempt (IO.FS.readBinFile p.text) with
    | .ok _ => return false
    | .error e => return e = .isDirectory
  writeFile p contents := attempt (IO.FS.writeFile p.text contents)
  entropy := do
    let bytes ← IO.getRandomBytes 32
    return bytes.toList.foldl (fun key b => key <<< 8 ||| b.toBitVec.setWidth 256) 0
  note d := IO.eprintln (renderNote d)

/-- What the program says about itself. -/
def helpText : String :=
  "Generate CSV test data, SQL DDL and UML XMI from a PlantUML ER diagram\n\n"
    ++ "Usage: crowfoot [OPTIONS] [FILE]\n\n"
    ++ "  FILE                  input file (standard input if not given)\n"
    ++ "  -o, --out OUT         output directory [default: out]\n"
    ++ "  -n, --rows ROWS       rows for each entity and join table [default: 4]\n"
    ++ "      --seed SEED       seed for reproducible data\n"
    ++ "  -f, --format FORMAT   artifacts to produce: csv, ddl, xmi [default: all]\n"
    ++ "      --strict          fail on entities that are only named in relationships\n"
    ++ "  -v, --verbose         show all diagnostics\n"
    ++ "  -h, --help            show this help"

/-- The program with its outcome told on the standard streams. -/
def runAndTell (args : List String) : IO UInt32 := do
  let outcome : Outcome ← program args
  match outcome with
  | .help => IO.println helpText
  | .usage e => IO.eprintln ("error: " ++ e.message)
  | .done | .failed _ => outcome.errorLine?.forM fun line => IO.eprintln line
  return UInt32.ofNat outcome.exitCode

end Crowfoot.CommandLine

/-- The program. -/
def main (args : List String) : IO UInt32 := Crowfoot.CommandLine.runAndTell args
