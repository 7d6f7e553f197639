import Crowfoot.Vocabulary.Rule

/-!
# Vocabularies

A vocabulary says where the values of an attribute come from. Its entries are for an
attribute of one entity or of every entity. An entry for the entity wins over an entry
for every entity, and among these the first wins; an entry without candidates gives no
value and still wins.
-/

namespace Crowfoot

open Text

/-- Where values come from. -/
inductive Candidates
  | words (list : List String)
  | rule (r : Rule)
  deriving DecidableEq, Repr

/-- Names of attributes, compared without regard to case. -/
inductive NamePattern
  | exact (name : String)
  /-- The names with that ending, which is given in lower case. -/
  | ending (text : String)
  deriving DecidableEq, Repr

/-- The name is one of those. -/
def NamePattern.matches (p : NamePattern) (name : String) : Bool :=
  match p with
  | exact n => SameName n name
  | ending text => text.toList.isSuffixOf (foldCase name)

/-- An entry for an attribute of one entity, or of every entity if none is given. -/
structure Entry where
  entity : Option String
  pattern : NamePattern
  candidates : Candidates
  deriving DecidableEq, Repr

/-- Entries, the earlier ones winning. -/
structure Vocabulary where
  entries : List Entry
  deriving DecidableEq, Repr

/-- A value of the candidates, for a row. -/
def Candidates.pick {γ : Type} [Generator γ] (row : RowContext) :
    Candidates → Draw γ (Option Value)
  | words list => return (← Draw.choose list).map .text
  | rule r => r.value row

namespace Vocabulary

/-- The vocabulary without entries. -/
def empty : Vocabulary := ⟨[]⟩

/-- The vocabulary with words for an attribute, of one entity or of every entity. -/
def withCandidates (v : Vocabulary) (entity : Option String) (attr : String)
    (words : List String) : Vocabulary :=
  ⟨⟨entity, .exact attr, .words words⟩ :: v.entries⟩

/-- The candidates for an attribute of an entity. -/
def lookup? (v : Vocabulary) (entity attr : String) : Option Candidates :=
  let fitting := v.entries.filter (·.pattern.matches attr)
  -- an entry for the entity wins wherever it stands
  let bound := fitting.find? (·.entity.any (SameName · entity))
  (bound.or (fitting.find? (·.entity.isNone))).map Entry.candidates

/-- The vocabulary as a source of values. -/
def source {γ : Type} [Generator γ] (v : Vocabulary) : ValueSource γ := fun row a =>
  match v.lookup? row.entity a.name with
  | some candidates => candidates.pick row
  | none => return none

end Vocabulary

end Crowfoot
