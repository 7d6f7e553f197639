import Std.Data.ExtTreeMap

/-!
# Files and directories

The files that the program can reach, seen from the directory in which it runs. A path
is followed name by name, and all but its last name must lead to a directory. Names and
paths have a greatest length.
-/

namespace Crowfoot.CommandLine

/-- A path as it is written: its names between slashes, some of which may be empty. -/
structure Path where
  absolute : Bool
  names : List String
  deriving DecidableEq, Repr

namespace Path

/-- The path that a text writes. -/
def ofText (text : String) : Path :=
  let parts := fun (cs : List Char) => (cs.splitOn '/').map String.ofList
  match text.toList with
  | '/' :: rest => ⟨true, parts rest⟩
  | cs => ⟨false, parts cs⟩

/-- The text of a path. -/
def text (p : Path) : String := (if p.absolute then "/" else "") ++ "/".intercalate p.names

/-- The names without an empty one at the end, which a slash leaves there. -/
def withoutSlash (names : List String) : List String :=
  if names.getLast? = some "" then names.dropLast else names

/-- The path of a name in a directory. -/
def join (p : Path) (name : String) : Path := { p with names := withoutSlash p.names ++ [name] }

/-- The name leads somewhere else than where it stands. -/
def isProper (name : String) : Bool := name ≠ "" && name ≠ "."

/-- The names without those that lead nowhere; a dot that begins the path is kept. -/
def components (p : Path) : List String :=
  match p.absolute, p.names with
  | false, "." :: rest => "." :: rest.filter isProper
  | _, names => names.filter isProper

/-- The paths with fewer and fewer of the names, which are given last name first. -/
def shorter (absolute : Bool) : List String → List Path
  | [] => []
  | _ :: [] => []
  | _ :: rest => ⟨absolute, rest.reverse⟩ :: shorter absolute rest

/-- The path and the directories on its way, from the innermost to the outermost. -/
def ancestors (p : Path) : List Path := p :: shorter p.absolute p.components.reverse

/-- The last name of a path, unless it leads back. -/
def fileName? (p : Path) : Option String :=
  match p.components.getLast? with
  | some "." | some ".." | none => none
  | some name => some name

/-- A file's name up to its last dot; a dot that begins the name does not count. -/
def stem (name : String) : String :=
  let front := ((name.toList.reverse.dropWhile (· ≠ '.')).drop 1).reverse
  if front.isEmpty then name else String.ofList front

end Path

/-- Why a file or directory cannot be used: the system's words and number for it. -/
structure FileError where
  reason : String
  code : Nat
  deriving DecidableEq, Repr

namespace FileError

/-- Nothing is there. -/
def notFound : FileError := ⟨"No such file or directory", 2⟩

/-- Something is there already. -/
def alreadyThere : FileError := ⟨"File exists", 17⟩

/-- A name on the way, or before a slash at the end, is a file's. -/
def notDirectory : FileError := ⟨"Not a directory", 20⟩

/-- A directory stands where a file is needed. -/
def isDirectory : FileError := ⟨"Is a directory", 21⟩

/-- The name or the whole path has too many bytes. -/
def nameTooLong : FileError := ⟨"File name too long", 36⟩

/-- The error in words. -/
def message (e : FileError) : String := e.reason ++ " (os error " ++ e.code.repr ++ ")"

end FileError

/-- What is at a place. -/
inductive Node
  | file (contents : ByteArray)
  | directory

instance : DecidableEq Node
  | .file a, .file b =>
    if h : a.data = b.data then .isTrue (congrArg Node.file (ByteArray.ext h))
    else .isFalse fun he => h (congrArg ByteArray.data (Node.file.inj he))
  | .directory, .directory => .isTrue rfl
  | .file _, .directory => .isFalse nofun
  | .directory, .file _ => .isFalse nofun

/-! ## Limits -/

/-- A name has at most that many bytes. -/
def nameLimit : Nat := 255

/-- A path has at most that many bytes. -/
def pathLimit : Nat := 4095

/-- No file or directory can have the name. -/
def isLongName (name : String) : Bool := nameLimit < name.utf8ByteSize

/-- No file or directory can be reached by the path as it is written. -/
def Path.isLong (p : Path) : Bool := pathLimit < p.text.utf8ByteSize

/-! ## Places -/

/--
A place, by the names that lead to it from the directory of the program, the last name in
front. The names `..` at the end lead out of that directory, and `/` to the root.
-/
abbrev Location := List String

namespace Location

/-- The directory around a place. -/
def above : Location → Location
  | [] => [".."]
  | ["/"] => ["/"]
  | name :: rest => if name = ".." then name :: name :: rest else rest

/-- The place that a name leads to. -/
def enter (l : Location) (name : String) : Location :=
  if name = "" ∨ name = "." then l else if name = ".." then l.above else name :: l

end Location

/--
The nodes at all places below the directory of the program, and those made elsewhere. A
node is only ever put into a directory, so a place that is a directory has directories
all around it.
-/
structure FileTree where
  nodes : Std.ExtTreeMap (List String) Node

namespace FileTree

/-- What is at a place. The directory of the program and those around it are there. -/
def node? (t : FileTree) (l : Location) : Option Node :=
  if l.all fun name => name = ".." || name = "/" then some .directory else t.nodes[l]?

/--
A place where a path can go on. If nothing is there, the error is that of the first name
on the way that leads nowhere.
-/
def requireDirectory (t : FileTree) : Location → Except FileError Unit
  | [] => .ok ()
  | name :: around =>
    match t.node? (name :: around) with
    | some .directory => .ok ()
    | some (.file _) => .error .notDirectory
    | none => do
      t.requireDirectory around
      .error (if isLongName name then .nameTooLong else .notFound)

/-- The place that a name leads to from a directory. -/
def step (t : FileTree) (l : Location) (name : String) : Except FileError Location := do
  t.requireDirectory l
  if isLongName name then .error .nameTooLong else .ok (l.enter name)

/-- The place that some names lead to. -/
def follow (t : FileTree) (l : Location) : List String → Except FileError Location
  | [] => .ok l
  | [name] => t.step l name
  | name :: rest =>
    -- an ordinary name is entered unseen, because what follows looks back at it
    if Path.isProper name && name ≠ ".." then t.follow (name :: l) rest
    else do t.follow (← t.step l name) rest

/-- The place that a path leads to, whether or not anything is there. -/
def locate (t : FileTree) (p : Path) : Except FileError Location :=
  if p.isLong then .error .nameTooLong
  else t.follow (if p.absolute then ["/"] else []) p.names

/-- A directory is at the place of the path. -/
def isDirectory (t : FileTree) (p : Path) : Bool :=
  match t.locate p with
  | .ok l => t.node? l = some .directory
  | .error _ => false

/-- The contents of a file. -/
def read (t : FileTree) (p : Path) : Except FileError ByteArray := do
  match t.node? (← t.locate p) with
  | some (.file contents) => return contents
  | some .directory => .error .isDirectory
  | none => .error .notFound

/-- The tree with a file of those contents. -/
def write (t : FileTree) (p : Path) (contents : ByteArray) : Except FileError FileTree := do
  let l ← t.locate p
  match t.node? l with
  | some .directory => .error .isDirectory
  | _ => return ⟨t.nodes.insert l (.file contents)⟩

/-- The names without the slashes at the end of the path. -/
def withoutSlashes (names : List String) : List String :=
  (names.reverse.dropWhile (· = "")).reverse

/-- The tree with a new directory. Slashes after its name do not count. -/
def makeDirectory (t : FileTree) (p : Path) : Except FileError FileTree := do
  if p.isLong then .error .nameTooLong
  else
    let l ← t.locate { p with names := withoutSlashes p.names }
    match t.node? l with
    | some _ => .error .alreadyThere
    | none => return ⟨t.nodes.insert l .directory⟩

/-! ## Trees of files -/

/-- The tree with directories at the place and on the way to it. -/
def addDirectories (t : FileTree) : Location → FileTree
  | [] => t
  | name :: around => ⟨(t.addDirectories around).nodes.insert (name :: around) .directory⟩

/-- The tree with a file and the directories around it. -/
def addFile (t : FileTree) (path : String) (contents : ByteArray) : FileTree :=
  let l : Location := (Path.ofText path).names.reverse
  ⟨(t.addDirectories l.tail).nodes.insert l (.file contents)⟩

/-- The tree of files by their paths. -/
def ofFiles (files : List (String × ByteArray)) : FileTree :=
  files.foldl (fun t (path, contents) => t.addFile path contents) ⟨∅⟩

/-- The files below the directory of the program that are not in the other tree like that. -/
def changes (t before : FileTree) : List (String × ByteArray) :=
  t.nodes.toList.filterMap fun (l, node) =>
    match node with
    | .directory => none
    | .file contents =>
      if l.getLast? = some ".." ∨ l.getLast? = some "/" ∨ before.nodes[l]? = some node then none
      else some ("/".intercalate l.reverse, contents)

end FileTree

end Crowfoot.CommandLine
