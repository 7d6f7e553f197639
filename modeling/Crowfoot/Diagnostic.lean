/-!
# Diagnostics

What the stages have to say beside their results. Each diagnostic is one fact; its
level, its message and its fields are given here and nowhere else.
-/

namespace Crowfoot

/-- How much attention a diagnostic asks for. -/
inductive Level
  | warn
  | info
  | debug
  deriving DecidableEq, Repr

/-- The name of a level. -/
def Level.name : Level → String
  | warn => "WARN"
  | info => "INFO"
  | debug => "DEBUG"

/-- A fact about a diagram, its schema or its data. -/
inductive Diagnostic
  /-- A block was still open when the next one began on that line. -/
  | blockLeftOpen (entity : String) (line : Nat)
  /-- A closing brace without a block. -/
  | strayClose (line : Nat)
  /-- An attribute without a block. -/
  | attributeOutside (line : Nat) (name : String)
  /-- A line of no known form. -/
  | unrecognizedLine (line : Nat) (text : String)
  /-- A block was still open at the end. -/
  | blockUnclosed (entity : String)
  /-- A block takes the place of an earlier one. -/
  | redeclared (entity : String)
  /-- The diagram has been read. -/
  | diagramRead (entities relationships : Nat)
  /-- A relationship is the first to name an undeclared entity. -/
  | placeholder (entity : String) (line : Nat)
  /-- The column of a reference is there already. -/
  | keyAlreadyDerived (entity column : String)
  /-- The join table of a relationship is there already. -/
  | joinAlreadyDeclared (table : String) (line : Nat)
  /-- A pair is joined in both orders. -/
  | joinBothWays (table : String) (line : Nat)
  /-- The relationships have been resolved. -/
  | resolved (entities foreignKeys joinTables : Nat)
  /-- A reference closes a cycle. -/
  | cycleClosed (entity parent : String)
  /-- The entities have been put in order. -/
  | ordered (entities : List String)
  /-- The table of an entity has been filled. -/
  | entityFilled (entity : String) (rows : Nat)
  /-- A join table has fewer rows than were asked for. -/
  | joinShort (table : String) (requested generated : Nat)
  /-- A join table has been filled. -/
  | joinFilled (table : String) (rows : Nat)
  deriving DecidableEq, Repr

/-- The value of a field. -/
inductive FieldValue
  | text (s : String)
  | number (n : Nat)
  deriving DecidableEq, Repr

namespace Diagnostic

/-- How much attention the fact asks for. -/
def level : Diagnostic → Level
  | blockUnclosed _ | placeholder .. | joinBothWays .. | cycleClosed .. | joinShort .. => .warn
  | diagramRead .. | resolved .. => .info
  | _ => .debug

/-- The fact in words, without its particulars. -/
def message : Diagnostic → String
  | blockLeftOpen .. => "entity block left open"
  | strayClose _ => "stray `\x7d` outside entity"
  | attributeOutside .. => "attribute outside entity ignored"
  | unrecognizedLine .. => "skipping unrecognized line"
  | blockUnclosed _ => "entity block not closed before end of input"
  | redeclared _ => "entity redeclared, replacing earlier block"
  | diagramRead .. => "parsed ER model"
  | placeholder .. => "entity only referenced by a relationship, adding empty placeholder"
  | keyAlreadyDerived .. => "foreign key already derived"
  | joinAlreadyDeclared .. => "join table already declared"
  | joinBothWays .. =>
    "many-to-many pair also declared in the opposite order, emitting a second join table"
  | resolved .. => "resolved relationships"
  | cycleClosed .. => "foreign key closes a cycle, parent may not be ready before child"
  | ordered _ => "dependency order"
  | entityFilled .. => "generated entity rows"
  | joinShort .. => "not enough distinct key pairs for join table"
  | joinFilled .. => "generated join rows"

/-- A list of names in brackets, each name in quotes. -/
def nameList (names : List String) : String :=
  "[" ++ ", ".intercalate (names.map fun name => "\"" ++ name ++ "\"") ++ "]"

/-- The particulars of the fact. -/
def fields : Diagnostic → List (String × FieldValue)
  | blockLeftOpen entity line => [("entity", .text entity), ("line", .number line)]
  | strayClose line => [("line", .number line)]
  | attributeOutside line name => [("line", .number line), ("attribute", .text name)]
  | unrecognizedLine line text => [("line", .number line), ("text", .text text)]
  | blockUnclosed entity => [("entity", .text entity)]
  | redeclared entity => [("entity", .text entity)]
  | diagramRead entities relationships =>
    [("entities", .number entities), ("relationships", .number relationships)]
  | placeholder entity line => [("entity", .text entity), ("line", .number line)]
  | keyAlreadyDerived entity column => [("entity", .text entity), ("column", .text column)]
  | joinAlreadyDeclared table line => [("table", .text table), ("line", .number line)]
  | joinBothWays table line => [("table", .text table), ("line", .number line)]
  | resolved entities foreignKeys joinTables =>
    [("entities", .number entities), ("foreign_keys", .number foreignKeys),
      ("join_tables", .number joinTables)]
  | cycleClosed entity parent => [("entity", .text entity), ("parent", .text parent)]
  | ordered entities => [("order", .text (nameList entities))]
  | entityFilled entity rows => [("entity", .text entity), ("rows", .number rows)]
  | joinShort table requested generated =>
    [("table", .text table), ("requested", .number requested), ("generated", .number generated)]
  | joinFilled table rows => [("table", .text table), ("rows", .number rows)]

end Diagnostic

end Crowfoot
