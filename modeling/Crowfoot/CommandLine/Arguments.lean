import Crowfoot.Plan

/-!
# Command-line arguments

The arguments are read from left to right, and the first one that is wrong ends the
reading; so does a request for help. An option takes its value from the same argument,
after an equals sign or right after a single letter, or else from the next argument,
which then must not look like an option. Letters without values may stand together.
After `--` there are no more options.

No option may be given twice, except the list of artifacts, which grows.
-/

namespace Crowfoot.CommandLine

/-- What can be produced from a diagram. -/
inductive Artifact
  | csv
  | ddl
  | xmi
  deriving DecidableEq, Repr

/-- The artifact of that very name. -/
def Artifact.ofName? : String → Option Artifact
  | "csv" => some csv
  | "ddl" => some ddl
  | "xmi" => some xmi
  | _ => none

/-- An option with a value. -/
inductive Setting
  | out
  | rows
  | seed
  | format
  deriving DecidableEq, Repr

/-- An option without a value. -/
inductive Switch
  | strict
  | verbose
  | help
  deriving DecidableEq, Repr

/-- An option by its name. -/
inductive KnownOption
  | setting (s : Setting)
  | switch (s : Switch)
  deriving DecidableEq, Repr

/-- What is wrong with the arguments. -/
inductive UsageError
  | unknownOption (text : String)
  | extraArgument (text : String)
  | repeated (name : String)
  | missingValue (s : Setting)
  | unexpectedValue (text : String)
  | badValue (s : Setting) (value : String)
  | emptyPath
  deriving DecidableEq, Repr

/-- The long name of a setting. -/
def Setting.name : Setting → String
  | out => "--out"
  | rows => "--rows"
  | seed => "--seed"
  | format => "--format"

/-- What is wrong, in words. -/
def UsageError.message : UsageError → String
  | unknownOption text => "unknown option '" ++ text ++ "'"
  | extraArgument text => "unexpected argument '" ++ text ++ "'"
  | repeated name => "'" ++ name ++ "' cannot be used twice"
  | missingValue s => "a value is required for '" ++ s.name ++ "'"
  | unexpectedValue text => "'" ++ text ++ "' takes no value"
  | badValue s value => "invalid value '" ++ value ++ "' for '" ++ s.name ++ "'"
  | emptyPath => "a path must not be empty"

/-- Why the reading of arguments ends before the last of them. -/
inductive Stop
  | help
  | usage (e : UsageError)
  deriving DecidableEq, Repr

/-- What the arguments have said so far. -/
structure Arguments where
  file : Option String
  out : Option String
  rows : Option Nat
  seed : Option UInt64
  formats : List Artifact
  strict : Bool
  verbose : Bool
  deriving DecidableEq, Repr

/-- No argument has been read. -/
def Arguments.none : Arguments := ⟨.none, .none, .none, .none, [], false, false⟩

/-- A call of the program. -/
structure Invocation where
  /-- The file to read; without it, the standard input. -/
  file : Option String
  out : String
  rows : Nat
  /-- The seed of the data; without it, they differ from run to run. -/
  seed : Option UInt64
  /-- The artifacts asked for; all if there are none. -/
  formats : List Artifact
  strict : Bool
  verbose : Bool
  deriving DecidableEq, Repr

/-! ## Values -/

/-- The number below `2 ^ 64` that a text of decimal digits stands for; a plus may precede it. -/
def word? (text : String) : Option Nat :=
  let digits :=
    match text.toList with
    | '+' :: rest => rest
    | cs => cs
  if !digits.isEmpty && digits.all Char.isDigit then
    let n := Nat.ofDigitChars 10 digits 0
    if n < wordCount 64 then some n else .none
  else .none

/-- The artifacts of a list with commas, all of which must be known. -/
def artifacts? (text : String) : Option (List Artifact) :=
  (text.toList.splitOn ',').mapM fun name => Artifact.ofName? (String.ofList name)

namespace Arguments

/-- The arguments with a setting's value. -/
def set (a : Arguments) (s : Setting) (value : String) : Except Stop Arguments :=
  match s with
  | .out =>
    if a.out.isSome then .error (.usage (.repeated s.name))
    else if value.isEmpty then .error (.usage .emptyPath)
    else .ok { a with out := value }
  | .rows =>
    if a.rows.isSome then .error (.usage (.repeated s.name))
    else
      match word? value with
      | some n => .ok { a with rows := n }
      | .none => .error (.usage (.badValue s value))
  | .seed =>
    if a.seed.isSome then .error (.usage (.repeated s.name))
    else
      match word? value with
      | some n => .ok { a with seed := UInt64.ofNat n }
      | .none => .error (.usage (.badValue s value))
  | .format =>
    match artifacts? value with
    | some list => .ok { a with formats := a.formats ++ list }
    | .none => .error (.usage (.badValue s value))

/-- The arguments with a switch. -/
def turnOn (a : Arguments) (s : Switch) : Except Stop Arguments :=
  match s with
  | .help => .error .help
  | .strict =>
    if a.strict then .error (.usage (.repeated "--strict")) else .ok { a with strict := true }
  | .verbose =>
    if a.verbose then .error (.usage (.repeated "--verbose")) else .ok { a with verbose := true }

/-- The arguments with one that is not an option: the file. -/
def addFile (a : Arguments) (text : String) : Except Stop Arguments :=
  if a.file.isSome then .error (.usage (.extraArgument text))
  else if text.isEmpty then .error (.usage .emptyPath)
  else .ok { a with file := text }

/-! ## Options -/

/-- The option of a long name. -/
def longOption? : String → Option KnownOption
  | "out" => some (.setting .out)
  | "rows" => some (.setting .rows)
  | "seed" => some (.setting .seed)
  | "format" => some (.setting .format)
  | "strict" => some (.switch .strict)
  | "verbose" => some (.switch .verbose)
  | "help" => some (.switch .help)
  | _ => .none

/-- The option of a letter. -/
def letterOption? : Char → Option KnownOption
  | 'o' => some (.setting .out)
  | 'n' => some (.setting .rows)
  | 'f' => some (.setting .format)
  | 'v' => some (.switch .verbose)
  | 'h' => some (.switch .help)
  | _ => .none

/-- The arguments with the letters after a dash, and the setting that still needs a value. -/
def addLetters (a : Arguments) : List Char → Except Stop (Arguments × Option Setting)
  | [] => .ok (a, .none)
  | c :: rest =>
    match letterOption? c, rest with
    | .none, _ => .error (.usage (.unknownOption (String.ofList ['-', c])))
    | some (.switch s), _ => do (← a.turnOn s).addLetters rest
    | some (.setting s), [] => .ok (a, some s)
    | some (.setting s), '=' :: value => return (← a.set s (String.ofList value), .none)
    | some (.setting s), value => return (← a.set s (String.ofList value), .none)

/-- The arguments with the text after two dashes, and the setting that still needs a value. -/
def addLong (a : Arguments) (text : List Char) : Except Stop (Arguments × Option Setting) :=
  let name := String.ofList (text.takeWhile (· ≠ '='))
  match longOption? name, text.dropWhile (· ≠ '=') with
  | .none, _ => .error (.usage (.unknownOption ("--" ++ name)))
  | some (.switch s), [] => return (← a.turnOn s, .none)
  | some (.switch _), _ => .error (.usage (.unexpectedValue ("--" ++ name)))
  | some (.setting s), [] => .ok (a, some s)
  | some (.setting s), _ :: value => return (← a.set s (String.ofList value), .none)

/-- The arguments with one more, and the setting that still needs a value. -/
def add (a : Arguments) (arg : String) : Except Stop (Arguments × Option Setting) :=
  match arg.toList with
  | '-' :: '-' :: text => a.addLong text
  | '-' :: c :: rest => a.addLetters (c :: rest)
  | _ => return (← a.addFile arg, .none)

/-- An argument that cannot be the value of the option before it. -/
def looksLikeOption (arg : String) : Bool :=
  match arg.toList with
  | '-' :: _ :: _ => true
  | _ => false

/-- The arguments with more of them, none of which is an option. -/
def addFiles (a : Arguments) : List String → Except Stop Arguments
  | [] => .ok a
  | arg :: rest => do (← a.addFile arg).addFiles rest

/-- The arguments with more of them; the value of the setting, if one is given, comes first. -/
def addAll (a : Arguments) : Option Setting → List String → Except Stop Arguments
  | .none, [] => .ok a
  | some s, [] => .error (.usage (.missingValue s))
  | some s, arg :: rest =>
    -- a value that begins with a dash has to follow an equals sign
    if looksLikeOption arg then .error (.usage (.missingValue s))
    else do (← a.set s arg).addAll .none rest
  | .none, arg :: rest =>
    if arg = "--" then a.addFiles rest
    else do
      let (a, setting) ← a.add arg
      a.addAll setting rest

/-- The call that the arguments describe, with the usual values for what they do not say. -/
def invocation (a : Arguments) : Invocation where
  file := a.file
  out := a.out.getD "out"
  rows := a.rows.getD defaultRows
  seed := a.seed
  formats := a.formats
  strict := a.strict
  verbose := a.verbose

end Arguments

/-- The call that a list of arguments stands for. -/
def Invocation.ofArguments (args : List String) : Except Stop Invocation :=
  return (← Arguments.none.addAll .none args).invocation

end Crowfoot.CommandLine
