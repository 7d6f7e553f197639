import Crowfoot.Vocabulary.Basic

/-!
# The standard vocabulary

Entries for the entities and attributes that are common in research information.
-/

namespace Crowfoot

namespace Entry

/-- Words for an attribute of an entity. -/
def words (entity attr : String) (list : List String) : Entry :=
  ⟨some entity, .exact attr, .words list⟩

/-- A rule for an attribute of an entity. -/
def rule (entity attr : String) (r : Rule) : Entry := ⟨some entity, .exact attr, .rule r⟩

/-- Words for an attribute of every entity. -/
def anyWords (attr : String) (list : List String) : Entry := ⟨none, .exact attr, .words list⟩

/-- A rule for an attribute of every entity. -/
def anyRule (attr : String) (r : Rule) : Entry := ⟨none, .exact attr, .rule r⟩

end Entry

namespace Vocabulary

open Words

/-- The entries for single entities. -/
def entityEntries : List Entry := [
  .words "Journal" "title" journalTitles,
  .rule "Journal" "abbreviation" (.abbreviation journalTitles),
  .words "Event" "name" eventNames,
  .words "Geolocation" "name" countryNames,
  .rule "Geolocation" "code" .countryCode,
  .words "Grant" "name" grantNames,
  .words "Person" "type" personTypes,
  .words "Position" "type" positionTypes,
  .words "Position" "title" positionTitles,
  .words "OrganisationUnit" "type" organisationTypes,
  .words "OrganisationUnit" "name" organisationNames,
  .words "Citations" "source" citationSources,
  .words "Citations" "citation_source" citationSources,
  .rule "Citations" "number" (.number 1 500 1),
  .rule "Citations" "citation_number" (.number 1 500 1),
  .rule "Grant" "total_award_amount" (.number 50 500 10000),
  .rule "Authorship" "display_author_name" .authorName,
  .rule "Advisorship" "advisor_person_id" .advisor,
  .rule "Advisorship" "student_person_id" .student,
  .words "Advisorship" "advising_relationship_type" advisingTypes]

/-- The entries for every entity. -/
def anyEntries : List Entry := [
  .anyWords "firstname" firstNames,
  .anyWords "lastname" lastNames,
  .anyWords "other_name" firstNames,
  .anyWords "name" names,
  .anyWords "title" documentTitles,
  .anyWords "preferred_title" preferredTitles,
  .anyRule "identifier" .identifier,
  .anyRule "orcid" .orcid,
  .anyRule "issn" .issn,
  .anyRule "isbn" .isbn,
  .anyRule "doi" .doi,
  .anyRule "ror" .registry,
  .anyRule "page_start" (.number 1 200 1),
  .anyRule "page_end" .lastPage,
  .anyRule "abbreviation" (.abbreviation organisationNames),
  ⟨none, .ending "_year", .rule (.number 1990 2025 1)⟩]

/-- The standard vocabulary. -/
def standard : Vocabulary := ⟨entityEntries ++ anyEntries⟩

end Vocabulary

end Crowfoot
