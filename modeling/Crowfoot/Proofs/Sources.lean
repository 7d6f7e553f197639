import Crowfoot.Proofs.Draws
import Crowfoot.Vocabulary.Basic

/-!
# Values of a vocabulary

A vocabulary gives words and what its rules make up. A rule may find nothing to choose from, and
then it gives no value; but no rule makes a null.
-/

namespace Crowfoot

open Draw

variable {γ : Type} [Generator γ]

namespace Rule

theorem keyFrom_ne_null (pool : List Int) :
    (keyFrom (γ := γ) pool).Ensures (· ≠ some .null) := by
  refine ensures_after fun key => ensures_pure ?_
  cases key with
  | none => exact nofun
  | some n => exact nofun

theorem lastPageOf_ne_null (row : RowContext) :
    (lastPageOf (γ := γ) row).Ensures (· ≠ .null) := by
  unfold lastPageOf
  split
  · exact ensures_after fun _ => ensures_pure nofun
  · exact ensures_after fun _ => ensures_pure nofun

theorem authorNameOf_ne_null (row : RowContext) :
    (authorNameOf (γ := γ) row).Ensures (· ≠ .null) := by
  refine ensures_after fun name => ?_
  cases name with
  | none => exact ensures_after fun _ => ensures_after fun _ => ensures_pure nofun
  | some _ => exact ensures_pure nofun

theorem countryCodeOf_ne_null (row : RowContext) :
    (countryCodeOf (γ := γ) row).Ensures (· ≠ some .null) := by
  have hcode : ∀ index : Nat, Words.countryCodes[index]?.map Value.text ≠ some .null := by
    intro index
    cases Words.countryCodes[index]? with
    | none => exact nofun
    | some _ => exact nofun
  unfold countryCodeOf
  dsimp only
  split
  · exact ensures_after fun index => ensures_pure (hcode index)
  · exact ensures_after fun index => ensures_pure (hcode index)

/-- **No rule makes a null.** -/
theorem value_ne_null (row : RowContext) (r : Rule) :
    (r.value (γ := γ) row).Ensures (· ≠ some .null) := by
  -- the rules that look at the row may find a value there, and none of these is null
  have hsome : ∀ {x : Draw γ Value}, x.Ensures (· ≠ .null) →
      (do return some (← x) : Draw γ (Option Value)).Ensures (· ≠ some .null) :=
    fun hx => hx.bind fun v hv => ensures_pure fun he => hv (Option.some.inj he)
  cases r with
  | abbreviation names => exact ensures_after fun _ => ensures_pure nofun
  | number low high factor => exact ensures_after fun _ => ensures_pure nofun
  | identifier => exact ensures_after fun _ => ensures_pure nofun
  | orcid =>
    exact ensures_after fun _ => ensures_after fun _ => ensures_after fun _ =>
      ensures_after fun _ => ensures_pure nofun
  | issn => exact ensures_after fun _ => ensures_after fun _ => ensures_pure nofun
  | isbn => exact ensures_after fun _ => ensures_pure nofun
  | doi => exact ensures_after fun _ => ensures_after fun _ => ensures_pure nofun
  | registry => exact ensures_after fun _ => ensures_pure nofun
  | lastPage => exact hsome (lastPageOf_ne_null row)
  | authorName => exact hsome (authorNameOf_ne_null row)
  | advisor => exact keyFrom_ne_null _
  | student => exact keyFrom_ne_null _
  | countryCode => exact countryCodeOf_ne_null row

end Rule

theorem Candidates.pick_ne_null (row : RowContext) (c : Candidates) :
    (c.pick (γ := γ) row).Ensures (· ≠ some .null) := by
  cases c with
  | words list =>
    refine ensures_after fun word => ensures_pure ?_
    cases word with
    | none => exact nofun
    | some _ => exact nofun
  | rule r => exact r.value_ne_null row

/-- **A vocabulary never gives null.** -/
theorem Vocabulary.source_ne_null (v : Vocabulary) (row : RowContext) (a : Attribute) :
    (v.source (γ := γ) row a).Ensures (· ≠ some .null) := by
  unfold Vocabulary.source
  split
  · exact Candidates.pick_ne_null row _
  · exact ensures_pure nofun

end Crowfoot
