import Crowfoot.Diagram.Basic
import Crowfoot.Text.Alphanumeric

/-!
# The lines of a diagram

A line is read on its own. After the blanks around it are removed it is empty or a
comment, the opening or closing of an entity's block, a separator, a relationship, an
attribute, or nothing that is known. The forms exclude one another, so the order in
which they are tried does not matter.

Within a line only spaces and tabs may stand between the parts. A name is as long as
possible: in `Ao|--||B` the letter `o` belongs to the name.
-/

namespace Crowfoot

open Text

/-- What a line says. -/
inductive Line
  | blank
  | entityOpen (name : String)
  | entityClose
  | separator
  | attr (a : Attribute)
  | relationship (left : String) (connector : Connector) (right : String) (label : Option String)
  | unrecognized
  deriving DecidableEq, Repr

namespace Line

/-- What may stand between two parts of a line. -/
def isGap (c : Char) : Bool := c = ' ' || c = '\t'

/-- What a name is made of. -/
def isNameChar (c : Char) : Bool := isAlphanumeric c || c = '_'

/-- What the word of a type is made of. -/
def isTypeChar (c : Char) : Bool := !isBlank c && c ≠ '<'

/-- The text without the gap at its front. -/
def skipGap (cs : List Char) : List Char := cs.dropWhile isGap

/-- The longest nonempty run of such characters at the front, and what follows it. -/
def run? (p : Char → Bool) (cs : List Char) : Option (String × List Char) :=
  if (cs.takeWhile p).isEmpty then none
  else some (String.ofList (cs.takeWhile p), cs.dropWhile p)

/-- The name at the front, and what follows it. -/
def name? (cs : List Char) : Option (String × List Char) := run? isNameChar cs

/-- What follows the word at the front. -/
def after? (word : String) (cs : List Char) : Option (List Char) :=
  word.toList.isPrefixOf? cs

/-- The first of the words that stands at the front, and what follows it. -/
def oneOf? (words : List String) (cs : List Char) : Option (String × List Char) :=
  words.findSome? fun word => (after? word cs).map (word, ·)

/-- The text before the first `>>`, and the text after it. -/
def untilClose? : List Char → Option (List Char × List Char)
  | [] => none
  | '>' :: '>' :: rest => some ([], rest)
  | c :: rest => (untilClose? rest).map fun (inner, outer) => (c :: inner, outer)

/-- The entity whose block a line opens: `entity`, a gap, a name, perhaps a brace. -/
def entityOpen? (cs : List Char) : Option String := do
  let rest ← after? "entity" cs
  guard (rest.head?.any isGap)
  let (name, rest) ← name? (skipGap rest)
  let rest := skipGap rest
  let rest := (after? "\x7b" rest).getD rest
  guard (skipGap rest).isEmpty
  return name

/-- The connector at the front, and what follows it. -/
def connector? (cs : List Char) : Option (Connector × List Char) := do
  let (left, rest) ← oneOf? Connector.leftEnds cs
  let (body, rest) ← oneOf? Connector.bodies rest
  let (right, rest) ← oneOf? Connector.rightEnds rest
  return (⟨left, body, right⟩, rest)

/-- The rest of a relationship: nothing, or a colon and a label. An empty label is none. -/
def label? : List Char → Option (Option String)
  | [] => some none
  | ':' :: rest =>
    let text := trim rest
    some (if text.isEmpty then none else some (String.ofList text))
  | _ => none

/-- The relationship a line states: name, connector, name, perhaps a label. -/
def relationship? (cs : List Char) : Option Line := do
  let (left, rest) ← name? cs
  let (connector, rest) ← connector? (skipGap rest)
  let (right, rest) ← name? (skipGap rest)
  let label ← label? (skipGap rest)
  return .relationship left connector right label

/-- The rest of an attribute: nothing, or a stereotype up to the first `>>`. -/
def stereotype? : List Char → Option (Option Stereotype)
  | [] => some none
  | '<' :: '<' :: rest => do
    let (inner, outer) ← untilClose? rest
    guard (skipGap outer).isEmpty
    return some (.ofText (String.ofList inner))
  | _ => none

/-- The star of a mandatory attribute, if it is there, and what follows it. -/
def star : List Char → Bool × List Char
  | '*' :: rest => (true, rest)
  | cs => (false, cs)

/-- The attribute a line declares: perhaps a star, name, colon, type, perhaps a stereotype. -/
def attribute? (cs : List Char) : Option Attribute := do
  let (mandatory, rest) := star cs
  let (name, rest) ← name? (skipGap rest)
  let rest ← after? ":" (skipGap rest)
  let (token, rest) ← run? isTypeChar (skipGap rest)
  let stereotype ← stereotype? (skipGap rest)
  return { name, type := .ofToken token, stereotype, mandatory }

/-- The mark that begins a comment. Attributes are read as if it were not there. -/
def quote : Char := '\x27'

/-- The reading of a line. -/
def ofText (raw : List Char) : Line :=
  let text := trim raw
  if text.isEmpty || text.head? = some quote then .blank
  else if text = ['\x7d'] then .entityClose
  else if text = ['-', '-'] then .separator
  else
    match entityOpen? text with
    | some name => .entityOpen name
    | none =>
      match relationship? text with
      | some line => line
      | none =>
        -- quotes may stand around the parts of an attribute
        match attribute? (trim (text.filter (· ≠ quote))) with
        | some a => .attr a
        | none => .unrecognized

end Line

end Crowfoot
