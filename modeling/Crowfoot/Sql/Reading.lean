import Crowfoot.Diagram.Line
import Crowfoot.Sql.Script

/-!
# Reading a script

A script is read as a database reads it, as far as it goes. The text is cut into words, texts in
quotes, comments and single signs, and blanks only keep these apart. A semicolon ends a statement.
The parts of a table have commas between them that are not within parentheses. A column has a name
and behind it a type, which goes on up to the words that say what else there is to the column.

A comment between two statements stands for itself. Within a statement none is read, and neither is
one that is written in another way than with two dashes. The constraint of a foreign key is called
after the child and the column, and one with another name is not read.
-/

namespace Crowfoot.Sql

open Text Line

/-! ## Tokens -/

/-- A piece of a script that is not taken apart any further. -/
inductive Token
  | word (text : String)
  | quoted (quote : Char) (text : String)
  | sign (c : Char)
  /-- What stands behind two dashes on a line. -/
  | comment (text : String)
  deriving DecidableEq, Repr

/-- Where the reader is. -/
inductive Place
  | between
  | word (cs : List Char)
  | sign (c : Char)
  | quoted (quote : Char) (cs : List Char)
  | comment (cs : List Char)
  deriving DecidableEq, Repr

/-- What has been read. -/
structure Lexer where
  tokens : List Token
  place : Place
  deriving DecidableEq, Repr

/-- The token that has come to its end, if there is one. -/
def Place.tokens : Place → List Token
  | between => []
  | word cs => [.word (String.ofList cs)]
  | sign c => [.sign c]
  | quoted quote cs => [.quoted quote (String.ofList cs)]
  | comment cs => [.comment (String.ofList cs)]

/-- The marks that stand around a text: for a value, and two of them for a name. -/
def quotes : List Char := ['\x27', '"', '\x60']

namespace Lexer

/-- Nothing has been read. -/
def start : Lexer := ⟨[], .between⟩

/-- The token has come to its end. -/
def closed (s : Lexer) : Lexer := ⟨s.tokens ++ s.place.tokens, .between⟩

/-- A character that does not belong to the token in front of it. -/
def fresh (s : Lexer) (c : Char) : Option Lexer :=
  if isBlank c then some s.closed
  else if isNameChar c then some { s.closed with place := .word [c] }
  else if c ∈ quotes then some { s.closed with place := .quoted c [] }
  -- a comment of another kind
  else if c = '#' then none
  else some { s.closed with place := .sign c }

/-- The next character. -/
def step (s : Lexer) (c : Char) : Option Lexer :=
  match s.place with
  | .between => s.fresh c
  | .word cs => if isNameChar c then some { s with place := .word (cs ++ [c]) } else s.fresh c
  | .sign d =>
    if d = '-' && c = '-' then some { s with place := .comment [] }
    else if d = '/' && c = '*' then none
    else s.fresh c
  | .quoted quote cs =>
    if c = quote then some s.closed
    else if c = '\\' then none
    else some { s with place := .quoted quote (cs ++ [c]) }
  | .comment cs =>
    if c = '\n' then some s.closed else some { s with place := .comment (cs ++ [c]) }

/-- The characters of a text, one after the other. -/
def run (s : Lexer) (cs : List Char) : Option Lexer := cs.foldlM step s

/-- The tokens when the text is at its end. An open quote has no end. -/
def finish (s : Lexer) : Option (List Token) :=
  match s.place with
  | .quoted _ _ => none
  | _ => some s.closed.tokens

end Lexer

/-- The tokens of a text. -/
def tokens? (text : String) : Option (List Token) := do (← Lexer.start.run text.toList).finish

/-- The characters of a token as it is written. -/
def Token.written : Token → List Char
  | word text => text.toList
  | quoted quote text => quote :: (text.toList ++ [quote])
  | sign c => [c]
  | comment text => '-' :: '-' :: text.toList

/-- The name that a token is. -/
def Token.name? : Token → Option String
  | word text => some text
  | quoted quote text => if quote = '\x27' then none else some text
  | _ => none

/-! ## The parts of a table -/

/-- A part of a table. -/
inductive Part
  | column (c : ColumnDef)
  | key (columns : List String)
  | reference (r : Reference)
  deriving DecidableEq, Repr

/-- The column that a part is. -/
def Part.column? : Part → Option ColumnDef
  | column c => some c
  | _ => none

/-- The columns of the key that a part is. -/
def Part.key? : Part → Option (List String)
  | key columns => some columns
  | _ => none

/-- The reference that a part is. -/
def Part.reference? : Part → Option Reference
  | reference r => some r
  | _ => none

/-- How many parentheses are open behind a token, if a part goes on with it. -/
def Token.depth (level : Nat) : Token → Option Nat
  | sign '(' => some (level + 1)
  | sign ')' => if level = 0 then none else some (level - 1)
  | sign ',' => if level = 0 then none else some level
  | sign ';' => none
  | comment _ => none
  | _ => some level

/-- The parts up to the parenthesis behind the last one, which ends the tokens. -/
def parts? (level : Nat) (part : List Token) : List Token → Option (List (List Token))
  | [] => none
  | t :: rest =>
    match t.depth level with
    | some next => parts? next (part ++ [t]) rest
    | none =>
      if t = .sign ',' then do return part :: (← parts? 0 [] rest)
      else if t = .sign ')' && rest.isEmpty then some [part]
      else none

/-- The names up to a parenthesis that ends the tokens, with commas between them. -/
def names? : List Token → Option (List String)
  | [name, .sign ')'] => return [← name.name?]
  | name :: .sign ',' :: rest => return (← name.name?) :: (← names? rest)
  | _ => none

/-- The columns of a primary key. -/
def keyClause? : List Token → Option (List String)
  | .word "PRIMARY" :: .word "KEY" :: .sign '(' :: rest => names? rest
  | _ => none

/-- A reference to the key of another table. -/
def reference? : List Token → Option Reference
  | [.word "FOREIGN", .word "KEY", .sign '(', column, .sign ')', .word "REFERENCES", table,
      .sign '(', key, .sign ')'] =>
    return ⟨← column.name?, ← table.name?, ← key.name?⟩
  | _ => none

/-- The words that begin what a column may have behind its type. -/
def optionWords : List Token := [.word "NOT", .word "AUTO_INCREMENT"]

/-- The column is not null, and counts up by itself. -/
def options? : List Token → Option (Bool × Bool)
  | [] => some (false, false)
  | [.word "NOT", .word "NULL"] => some (true, false)
  | [.word "AUTO_INCREMENT"] => some (false, true)
  | [.word "NOT", .word "NULL", .word "AUTO_INCREMENT"] => some (true, true)
  | _ => none

/-- The definition of a column. -/
def column? : List Token → Option ColumnDef
  | [] => none
  | name :: rest => do
    let type := rest.takeWhile (· ∉ optionWords)
    let (notNull, autoIncrement) ← options? (rest.dropWhile (· ∉ optionWords))
    return ⟨← name.name?, String.ofList (type.flatMap Token.written), notNull, autoIncrement⟩

/-- What a part of a table is. -/
def part? (ts : List Token) : Option Part :=
  match keyClause? ts, reference? ts with
  | some columns, _ => some (.key columns)
  | none, some r => some (.reference r)
  | none, none => (column? ts).map .column

/-! ## Statements -/

/-- A table of these parts. It has one primary key at most. -/
def table? (name : String) (parts : List Part) : Option Statement :=
  let columns := parts.filterMap Part.column?
  let references := parts.filterMap Part.reference?
  match parts.filterMap Part.key? with
  | [] => some (.createTable name columns [] references)
  | [key] => some (.createTable name columns key references)
  | _ => none

/-- The statement in front of a semicolon. -/
def statement? : List Token → Option Statement
  | .word "CREATE" :: .word "TABLE" :: name :: .sign '(' :: rest => do
    table? (← name.name?) (← (← parts? 0 [] rest).mapM part?)
  | .word "ALTER" :: .word "TABLE" :: child :: .word "ADD" :: .word "CONSTRAINT" :: name ::
      rest => do
    let child ← child.name?
    let r ← reference? rest
    guard (name.name? = some (constraintName child r.column))
    return .addForeignKey child r
  | _ => none

/-- The comment that stands in the place of a statement. -/
def comment? (text : String) : Option Statement := do
  let (name, rest) ← name? (← after? " " text.toList)
  if rest = ": no columns declared".toList then return .noColumns name
  else
    let (column, rest) ← name? (← after? "." rest)
    let (parent, rest) ← name? (← after? ": " rest)
    guard (rest = " has no primary key, constraint skipped".toList)
    return .noParentKey name column parent

/-- The statements of the tokens, of which those of the first one have begun. -/
def statements? (begun : List Token) : List Token → Option (List Statement)
  | [] => if begun.isEmpty then some [] else none
  | .sign ';' :: rest => return (← statement? begun) :: (← statements? [] rest)
  | .comment text :: rest =>
    if begun.isEmpty then return (← comment? text) :: (← statements? [] rest) else none
  | t :: rest => statements? (begun ++ [t]) rest

/-- The statements of a text. -/
def read? (text : String) : Option (List Statement) := do statements? [] (← tokens? text)

/-! ## Types -/

/--
The word is a type wherever a column has it. Quotes and parentheses in it are closed, no comma
stands outside of parentheses, and there is neither a semicolon nor a comment, nor a word that is
read as something else in front of a type or behind it.
-/
def isType (type : String) : Bool :=
  (tokens? type).any fun ts =>
    ts.foldlM Token.depth 0 = some 0 && ts.all (· ∉ .word "KEY" :: optionWords)

end Crowfoot.Sql
