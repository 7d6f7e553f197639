/-!
# The built-in words

Lists of words for attributes with well-known names, from the field of research
information.
-/

namespace Crowfoot.Words

def firstNames : List String :=
  ["Ana", "Marko", "Jelena", "Petar", "Ivana", "Nikola", "Maja", "Milos", "Luka", "Sara"]

def lastNames : List String :=
  ["Petrovic", "Garcia", "Smith", "Ivanov", "Chen", "Silva", "Jovanovic", "Kovacevic"]

def names : List String :=
  ["University of Belgrade", "Faculty of Science", "Institute of AI", "Open Data Lab", "Ana",
    "Marko", "Jelena", "Petar"]

def documentTitles : List String :=
  ["AI in Education", "Knowledge Graphs", "Quantum Research", "Cloud Computing", "Open Science",
    "Machine Learning for Healthcare", "Semantic Web Technologies", "Data Science for Policy"]

def journalTitles : List String :=
  ["AI Review", "Information Systems", "Data Science Journal", "Computing Advances"]

def eventNames : List String :=
  ["AIConf 2025", "Open Science Summit", "Quantum Symposium", "Cloud Expo Europe"]

def countryNames : List String := ["Serbia", "Germany", "USA", "France", "Spain"]

/-- The codes of the countries, in the order of their names above. -/
def countryCodes : List String := ["RS", "DE", "US", "FR", "ES"]

def grantNames : List String :=
  ["HorizonEurope Project X", "National Science Grant Y", "AI Innovation Programme",
    "Climate Research Initiative"]

def personTypes : List String := ["researcher", "student", "staff"]

def preferredTitles : List String := ["Dr.", "Prof.", "Mr.", "Ms."]

def positionTypes : List String := ["faculty position", "non-academic position"]

def positionTitles : List String := ["full professor", "librarian", "developer"]

def organisationTypes : List String :=
  ["Faculty", "Research Center", "Research Institute", "College", "NGO"]

def organisationNames : List String :=
  ["University of Belgrade", "Faculty of Science", "Institute of AI", "Research Center VINCA",
    "Open Data Lab"]

def citationSources : List String := ["OpenAlex", "Web of Science", "Scopus"]

def advisingTypes : List String :=
  ["Advising", "Faculty Mentoring", "Graduate Advising", "Postdoc or Fellow Advising",
    "Undergraduate Advising"]

/-- The characters of an organisation's registry number. -/
def registryCharacters : List Char := "0123456789abcdefghijklmnopqrstuvwxyz".toList

end Crowfoot.Words
