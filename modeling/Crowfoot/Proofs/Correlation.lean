import Crowfoot.Proofs.Overriding
import Crowfoot.Proofs.People

/-!
# Values that agree within a row

Two rules of the standard vocabulary derive a value from the same row: the last page of a range from
its first page, and the code of a country from its name. Each looks for the first column of a name
in any case and sees what stands there if that column comes before its own.

A first page is a number however it came about, as a key, as a reference or by the vocabulary. So
the last page always follows it. The name of a country is a built-in one only where the vocabulary
has given it, which is why the column must not be a key there.
-/

namespace Crowfoot

open Draw Generation Text

variable {γ : Type} [Generator γ]

/-! ## What the rules give -/

namespace Rule

theorem number_int (row : RowContext) {low high : Int} (h : low ≤ high) (factor : Int) :
    (value (γ := γ) row (.number low high factor)).Ensures fun r =>
      ∃ w, r = some w ∧ ∃ n : Int, w = .int n :=
  (between_mem h).bind fun n _ => ensures_pure ⟨.int (n * factor), rfl, n * factor, rfl⟩

/-- **A last page comes at most thirty pages after the first page of the row.** -/
theorem lastPage_after {row : RowContext} {start : Int} (h : intIn? row "page_start" = some start) :
    (value (γ := γ) row .lastPage).Ensures fun r => ∃ w, r = some w ∧ ∃ last : Int,
      w = .int last ∧ start + 1 ≤ last ∧ last ≤ start + 30 := by
  have hpage : (lastPageOf (γ := γ) row).Ensures fun w => ∃ last : Int,
      w = .int last ∧ start + 1 ≤ last ∧ last ≤ start + 30 := by
    unfold lastPageOf
    rw [h]
    refine (between_mem (by decide)).bind fun n hn => ensures_pure ⟨start + n, rfl, ?_⟩
    omega
  exact hpage.bind fun w hw => ensures_pure ⟨w, rfl, hw⟩

/-- **The code of a country stands in the list where the name of the row does.** -/
theorem countryCode_of_name {row : RowContext} {country : String} {n : Nat}
    (h : row.get? "name" = some (.text country)) (hn : Words.countryNames.idxOf? country = some n) :
    (value (γ := γ) row .countryCode).Ensures fun r => ∃ w, r = some w ∧ ∃ code,
      w = .text code ∧ Words.countryCodes[n]? = some code := by
  -- there is a code for every name
  have hlt : n < Words.countryCodes.length := (List.idxOf?_eq_some_iff.mp hn).1
  show (countryCodeOf (γ := γ) row).Ensures _
  unfold countryCodeOf
  rw [h]
  dsimp only
  rw [hn]
  refine ensures_pure ?_
  rw [List.getElem?_eq_getElem hlt]
  exact ⟨.text Words.countryCodes[n], rfl, Words.countryCodes[n], rfl, rfl⟩

end Rule

theorem words_text (row : RowContext) {words : List String} (h : words ≠ []) :
    ((Candidates.words words).pick (γ := γ) row).Ensures fun r =>
      ∃ w, r = some w ∧ ∃ word ∈ words, w = .text word := by
  refine ((Vocabulary.picks_choose words).mem h).mono fun r hr => ?_
  obtain ⟨word, hword, rfl⟩ := hr
  exact ⟨.text word, rfl, word, hword, rfl⟩

/-! ## What the vocabulary has for the names -/

namespace Vocabulary

variable {v : Vocabulary} {entity attr name : String}

/-- An attribute that no entry binds to an entity has the first entry for every entity. -/
theorem lookup?_of_unbound (hattr : SameName attr name)
    (hunbound : ∀ x ∈ v.entries, x.pattern.matches name = true → x.entity = none) :
    v.lookup? entity attr = (v.entries.find? (·.isGeneric name)).map Entry.candidates := by
  have hbound : v.entries.find? (·.isBound entity name) = none := by
    refine List.find?_eq_none.mpr fun x hx hb => ?_
    obtain ⟨hmatches, hentity⟩ := (Bool.and_eq_true _ _).mp hb
    rw [hunbound x hx hmatches] at hentity
    exact absurd hentity nofun
  rw [lookup?_eq, entryFor?_congr rfl hattr, entryFor?, hbound, Option.none_or]

theorem lookup?_congr {entity' attr' : String} (hentity : SameName entity' entity)
    (hattr : SameName attr' attr) : v.lookup? entity' attr' = v.lookup? entity attr := by
  rw [lookup?_eq, lookup?_eq, entryFor?_congr hentity hattr]

theorem lookup?_pageStart (h : SameName attr "page_start") :
    standard.lookup? entity attr = some (.rule (.number 1 200 1)) := by
  rw [lookup?_of_unbound h (by decide +kernel)]
  decide +kernel

theorem lookup?_pageEnd (h : SameName attr "page_end") :
    standard.lookup? entity attr = some (.rule .lastPage) := by
  rw [lookup?_of_unbound h (by decide +kernel)]
  decide +kernel

theorem lookup?_countryName (hentity : SameName entity "Geolocation") (h : SameName attr "name") :
    standard.lookup? entity attr = some (.words Words.countryNames) := by
  rw [lookup?_congr hentity h]
  decide +kernel

theorem lookup?_countryCode (hentity : SameName entity "Geolocation") (h : SameName attr "code") :
    standard.lookup? entity attr = some (.rule .countryCode) := by
  rw [lookup?_congr hentity h]
  decide +kernel

end Vocabulary

/-! ## Rows -/

namespace Plan

variable {p : Plan} {rows : Nat} {g : γ} {d : Dataset} {name : String} {e : Entity} {t : Table}
  {k r i j : Nat} {row : List Value} {c : Column}

/-- The first column of a name is the column of the entity at that place. -/
theorem exists_column_of_columnIndex? {source : ValueSource γ} (hp : p.Regular)
    (hd : ((p.dataset source rows).run g).1 = .ok d) (he : p.schema.entity? name = some e)
    (hat : p.TableAt d k e t) {column : String} (hj : columnIndex? t.columns column = some j) :
    ∃ c, (p.schema.columns name)[j]? = some c ∧ t.columns[j]? = some c.name ∧
      SameName c.name column := by
  obtain ⟨hlt, hsame, _⟩ := List.findIdx?_eq_some_iff_getElem.mp hj
  have hcolumns : t.columns = (p.schema.columns name).map Column.name := by
    rw [(tableMade_of_tableAt hd hat).columns, (hp.proper _ _ he).named]
  have hget : t.columns[j]? = some t.columns[j] := List.getElem?_eq_getElem hlt
  have hthere : ((p.schema.columns name)[j]?).map Column.name = some t.columns[j] := by
    rw [← List.getElem?_map, ← hcolumns, hget]
  obtain ⟨c, hc, hname⟩ := Option.map_eq_some_iff.mp hthere
  exact ⟨c, hc, hname ▸ hget, hname ▸ of_decide_eq_true hsame⟩

/-- **A first page is a number, be it a key, a reference or neither.** -/
theorem exists_int_pageStart (hp : p.Regular)
    (hd : ((p.dataset Vocabulary.standard.source rows).run g).1 = .ok d)
    (he : p.schema.entity? name = some e) (hat : p.TableAt d k e t) (hrow : t.rows[r]? = some row)
    (hj : columnIndex? t.columns "page_start" = some j) :
    ∃ start : Int, row[j]? = some (.int start) := by
  obtain ⟨c, hc, hplace, hname⟩ := exists_column_of_columnIndex? hp hd he hat hj
  have hmade := tableMade_of_tableAt hd hat
  -- keys count from one, references are keys, and anything else is drawn by the rule for pages
  cases hkey : e.isKey c.name with
  | true => exact ⟨_, tableMade_key_cell hmade (of_decide_eq_true hkey) hrow hplace⟩
  | false =>
    cases hreference : c.foreignKey with
    | some reference =>
      obtain ⟨m, _, hcell⟩ := cell_of_reference hp hd he hat hrow hc hreference
      exact ⟨_, hcell⟩
    | none =>
      have hrange : (1 : Int) ≤ 200 := by decide
      have hpick := Rule.number_int (γ := γ) (p.contextAt rows d k t r row j) hrange 1
      obtain ⟨_, hcell, start, rfl⟩ := cell_of_lookup? hp hd he hat hrow hc ⟨hkey, hreference⟩
        (Vocabulary.lookup?_pageStart hname) hpick
      exact ⟨start, hcell⟩

/-- What the rows of entities have in common with the columns that they derive from. -/
structure Correlated (p : Plan) (d : Dataset) : Prop where
  /-- A last page that stands behind the first page follows it, by thirty pages at most. -/
  pages : ∀ name e, p.schema.entity? name = some e → ∀ t ∈ d.entityTables name, ∀ j i c,
    columnIndex? t.columns "page_start" = some j → (p.schema.columns name)[i]? = some c →
    SameName c.name "page_end" → c.Plain e → j < i → ∀ row ∈ t.rows, ∃ start last : Int,
      row[j]? = some (.int start) ∧ row[i]? = some (.int last) ∧
        start + 1 ≤ last ∧ last ≤ start + 30
  /-- The code of a place is that of the country by whose name it is called in front. -/
  countries : ∀ name e, p.schema.entity? name = some e → SameName name "Geolocation" →
    ∀ t ∈ d.entityTables name, ∀ j i c c', columnIndex? t.columns "name" = some j →
    (p.schema.columns name)[j]? = some c → c.Plain e → (p.schema.columns name)[i]? = some c' →
    SameName c'.name "code" → c'.Plain e → j < i → ∀ row ∈ t.rows, ∃ country code n,
      row[j]? = some (.text country) ∧ row[i]? = some (.text code) ∧
        Words.countryNames.idxOf? country = some n ∧ Words.countryCodes[n]? = some code

/--
**Derived values agree with what stands in front of them.**

In the data of the standard vocabulary for any text, however many rows there are and whatever the
generator: a last page comes one to thirty pages after the first page that stands in front of it,
and in a table called like `Geolocation` a code is that of the country in front of it.
-/
theorem dataset_correlated {mode : Undeclared} {text : String} (hplan : ofText mode text = .ok p)
    (hd : ((p.dataset Vocabulary.standard.source rows).run g).1 = .ok d) : p.Correlated d := by
  have hp := regular_ofText hplan
  constructor
  case pages =>
    intro name e he t ht j i c hj hc hname hplain hlt row hrow
    obtain ⟨before, after, t', _, htables, hat⟩ := exists_tableAt hp hd he
    rw [htables, List.mem_singleton] at ht
    subst ht
    obtain ⟨r, hr⟩ := List.mem_iff_getElem?.mp hrow
    obtain ⟨start, hstart⟩ := exists_int_pageStart hp hd he hat hr hj
    -- the rule sees the first page
    obtain ⟨_, hcell, last, rfl, hrange⟩ := cell_of_lookup? hp hd he hat hr hc hplain
      (Vocabulary.lookup?_pageEnd hname) (Rule.lastPage_after (intIn?_contextAt hj hlt hstart))
    exact ⟨start, last, hstart, hcell, hrange⟩
  case countries =>
    intro name e he hentity t ht j i c c' hj hc hplain hc' hname' hplain' hlt row hrow
    obtain ⟨before, after, t', _, htables, hat⟩ := exists_tableAt hp hd he
    rw [htables, List.mem_singleton] at ht
    subst ht
    obtain ⟨r, hr⟩ := List.mem_iff_getElem?.mp hrow
    have hname : SameName c.name "name" := by
      obtain ⟨c₀, hc₀, _, hsame⟩ := exists_column_of_columnIndex? hp hd he hat hj
      rw [Option.some.inj (hc.symm.trans hc₀)]
      exact hsame
    obtain ⟨_, hcountry, country, hmem, rfl⟩ := cell_of_lookup? hp hd he hat hr hc hplain
      (Vocabulary.lookup?_countryName hentity hname)
      (words_text (p.contextAt rows d before.length t r row j) (by decide))
    obtain ⟨n, hn⟩ := Option.isSome_iff_exists.mp (List.isSome_idxOf?.mpr hmem)
    -- the rule sees the name
    have hseen : (p.contextAt rows d before.length t r row i).get? "name" =
        some (.text country) := by
      rw [get?_contextAt hj hlt, hcountry]
    obtain ⟨_, hcell, code, rfl, hcode⟩ := cell_of_lookup? hp hd he hat hr hc' hplain'
      (Vocabulary.lookup?_countryCode hentity hname') (Rule.countryCode_of_name hseen hn)
    exact ⟨country, code, n, hcountry, hcell, hn, hcode⟩

/-- Articles of which the first page is the key, and places whose entity is in another case. -/
def pageText : String :=
  "entity Article \x7b\n Page_Start : number <<generated>>\n volume : text\n"
    ++ " page_END : text\n\x7d\n"
    ++ "entity geoLocation \x7b\n Name : text\n CODE : text\n\x7d\n"

/-- Last pages follow the key, whatever their declared type. -/
theorem dataset_correlated_pageKey :
    ∃ p d articles places, ofText .synthesize pageText = .ok p ∧
      ((p.dataset Vocabulary.standard.source 2).run (SplitMix.mk [] 0)).1 = .ok d ∧
      d.entityTables "Article" = [articles] ∧ d.entityTables "geoLocation" = [places] ∧
      articles.rows.length = 2 ∧ places.rows.length = 2 ∧
      (∀ row ∈ articles.rows, ∃ start last : Int, row[0]? = some (.int start) ∧
        row[2]? = some (.int last) ∧ start + 1 ≤ last ∧ last ≤ start + 30) ∧
      ∀ row ∈ places.rows, ∃ country code n, row[0]? = some (.text country) ∧
        row[1]? = some (.text code) ∧ Words.countryNames.idxOf? country = some n ∧
          Words.countryCodes[n]? = some code := by
  have heval : (ofText .synthesize pageText).toOption.any (fun p =>
      decide (p.schema.entity? "Article" = some ⟨"Article",
            [⟨"Page_Start", .number, some .generated, false⟩, ⟨"volume", .text, none, false⟩,
              ⟨"page_END", .text, none, false⟩], some "Page_Start", true⟩ ∧
          p.schema.columns "Article" =
            [⟨"Page_Start", some ⟨"Page_Start", .number, some .generated, false⟩, none⟩,
              ⟨"volume", some ⟨"volume", .text, none, false⟩, none⟩,
              ⟨"page_END", some ⟨"page_END", .text, none, false⟩, none⟩] ∧
          p.schema.entity? "geoLocation" = some ⟨"geoLocation",
            [⟨"Name", .text, none, false⟩, ⟨"CODE", .text, none, false⟩], none, true⟩ ∧
          p.schema.columns "geoLocation" =
            [⟨"Name", some ⟨"Name", .text, none, false⟩, none⟩,
              ⟨"CODE", some ⟨"CODE", .text, none, false⟩, none⟩]) &&
        ((p.dataset Vocabulary.standard.source 2).run (SplitMix.mk [] 0)).1.toOption.any fun d =>
          decide ((d.entityTables "Article").map (fun t => (t.columns, t.rows.length)) =
              [(["Page_Start", "volume", "page_END"], 2)] ∧
            (d.entityTables "geoLocation").map (fun t => (t.columns, t.rows.length)) =
              [(["Name", "CODE"], 2)])) = true := by
    decide +kernel
  obtain ⟨p, hplan, htest⟩ := exists_ok_of_any heval
  obtain ⟨hschema, hdata⟩ := Bool.and_eq_true_iff.mp htest
  obtain ⟨harticle, hcolumns, hplace, hcolumns'⟩ := of_decide_eq_true hschema
  obtain ⟨d, hd, htest⟩ := exists_ok_of_any hdata
  obtain ⟨htables, htables'⟩ := of_decide_eq_true htest
  obtain ⟨articles, harticles, hmade⟩ := List.map_eq_singleton_iff.mp htables
  obtain ⟨places, hplaces, hmade'⟩ := List.map_eq_singleton_iff.mp htables'
  obtain ⟨hnames, hlength⟩ := Prod.mk.inj hmade
  obtain ⟨hnames', hlength'⟩ := Prod.mk.inj hmade'
  -- columns are found by their names in whatever case, and the first page is the key here
  have hpage : columnIndex? articles.columns "page_start" = some 0 := by
    rw [hnames]
    decide +kernel
  have hname : columnIndex? places.columns "name" = some 0 := by
    rw [hnames']
    decide +kernel
  have hall := dataset_correlated hplan hd
  refine ⟨p, d, articles, places, hplan, hd, harticles, hplaces, hlength, hlength', ?_, ?_⟩
  · exact hall.pages _ _ harticle articles (harticles ▸ List.mem_singleton_self _) 0 2 _ hpage
      (by rw [hcolumns]; rfl) (by decide) ⟨by decide, rfl⟩ (by decide)
  · exact hall.countries _ _ hplace (by decide) places (hplaces ▸ List.mem_singleton_self _) 0 1 _ _
      hname (by rw [hcolumns']; rfl) ⟨by decide, rfl⟩ (by rw [hcolumns']; rfl) (by decide)
      ⟨by decide, rfl⟩ (by decide)

end Plan

end Crowfoot
