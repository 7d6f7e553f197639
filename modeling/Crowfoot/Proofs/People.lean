import Crowfoot.Proofs.Contexts
import Crowfoot.Proofs.Integrity
import Crowfoot.Proofs.Success
import Crowfoot.Vocabulary.Standard
import Mathlib.Data.Option.Basic

/-!
# The people of a dataset

Three rules of the standard vocabulary speak of people. An author is called like a person, an
advisor and a student are keys of people. Which person it is may depend on a cell of the same row,
and a rule sees only the cells that stand before its own. So an author has the name of the person
that the row refers to if that column comes first, and a student is another person than the advisor
if the advisor comes first.
-/

namespace Crowfoot

open Draw Generation Text

variable {γ : Type} [Generator γ]

/-! ## What the rules give -/

/-- The first and the last name in a row of a table of people. -/
def Table.fullName? (people : Table) (i : Nat) : Option String := do
  return (← people.cell? i "firstname").display ++ " " ++ (← people.cell? i "lastname").display

namespace Rule

theorem keyFrom_mem {pool : List Int} (h : pool ≠ []) :
    (keyFrom (γ := γ) pool).Ensures fun v => ∃ w, v = some w ∧ ∃ n ∈ pool, w = .int n := by
  refine (choose_mem pool).bind fun key hkey => ensures_pure ?_
  obtain ⟨n, hn, rfl⟩ := hkey.resolve_left fun hnone => h hnone.1
  exact ⟨.int n, rfl, n, hn, rfl⟩

/-- **A student is not the advisor that stands in the row, if there is anybody else.** -/
theorem studentOf_mem {row : RowContext} (h : row.keysOf "Person" ≠ []) :
    (studentOf (γ := γ) row).Ensures fun v => ∃ w, v = some w ∧ ∃ n ∈ row.keysOf "Person",
      w = .int n ∧ ((∃ other ∈ row.keysOf "Person", some other ≠ intIn? row "advisor_person_id") →
        some n ≠ intIn? row "advisor_person_id") := by
  unfold studentOf
  dsimp only
  split
  · rename_i hothers
    refine (keyFrom_mem h).mono fun v hv => ?_
    obtain ⟨w, hw, n, hn, rfl⟩ := hv
    refine ⟨.int n, hw, n, hn, rfl, fun hother => ?_⟩
    obtain ⟨other, hmem, hne⟩ := hother
    -- nobody else is there, which is the one case in which it is the advisor
    have hnone := List.filter_eq_nil_iff.mp (List.isEmpty_iff.mp hothers) other hmem
    exact absurd (decide_eq_true hne) hnone
  · rename_i hothers
    refine (keyFrom_mem fun hnil => hothers (List.isEmpty_iff.mpr hnil)).mono fun v hv => ?_
    obtain ⟨w, hw, n, hn, rfl⟩ := hv
    obtain ⟨hmem, hne⟩ := List.mem_filter.mp hn
    exact ⟨.int n, hw, n, hmem, rfl, fun _ => of_decide_eq_true hne⟩

/-- Keys count the rows from one. -/
theorem personAt?_eq_some_iff {row : RowContext} {people : Table} {i : Nat} :
    personAt? row people = some i ↔
      i < people.rows.length ∧ intIn? row "person_id" = some ((i : Int) + 1) := by
  unfold personAt?
  constructor
  · intro h
    obtain ⟨id, hid, h⟩ := Option.bind_eq_some_iff.mp h
    obtain ⟨_, hguard, h⟩ := Option.bind_eq_some_iff.mp h
    have hrange : 1 ≤ id ∧ id ≤ people.rows.length := (Option.guard_eq_some' _).mp hguard
    obtain rfl := Option.some.inj h
    refine ⟨by omega, hid.trans (congrArg some ?_)⟩
    omega
  · intro h
    obtain ⟨hi, hid⟩ := h
    -- the row is there, so its key is in the range of keys
    have hrange : (1 : Int) ≤ i + 1 ∧ (i : Int) + 1 ≤ people.rows.length := by omega
    rw [hid]
    simp [hrange]

/-- **An author has the name of a person, and of the person in the row if there is one.** -/
theorem authorNameOf_person {row : RowContext} {people : Table}
    (hpeople : row.table? "Person" = some people) (hne : people.rows ≠ [])
    (hnames : ∀ i < people.rows.length, ∃ name, people.fullName? i = some name) :
    (authorNameOf (γ := γ) row).Ensures fun v => ∃ i name, i < people.rows.length ∧
      people.fullName? i = some name ∧ v = .text name ∧
        ∀ own, personAt? row people = some own → i = own := by
  -- first the place: that of the person in the row, or any
  have hindex : (personIndex (γ := γ) row people).Ensures fun i =>
      i < people.rows.length ∧ ∀ own, personAt? row people = some own → i = own := by
    unfold personIndex
    split
    · rename_i own hown
      refine ensures_pure ⟨(personAt?_eq_some_iff.mp hown).1, fun own' hown' => ?_⟩
      exact Option.some.inj (hown.symm.trans hown')
    · rename_i hnone
      refine (below32_lt (List.length_pos_iff.mpr hne)).mono fun i hi => ⟨hi, fun own hown => ?_⟩
      exact absurd (hnone.symm.trans hown) nofun
  -- then the name at this place, which every person has
  have hname : (personName (γ := γ) row).Ensures fun r => ∃ i name, i < people.rows.length ∧
      people.fullName? i = some name ∧ r = some name ∧
        ∀ own, personAt? row people = some own → i = own := by
    unfold personName
    rw [hpeople]
    dsimp only
    rw [if_neg fun hempty => hne (List.isEmpty_iff.mp hempty)]
    refine hindex.bind fun i hi => ?_
    obtain ⟨name, hfull⟩ := hnames i hi.1
    have hcells := hfull
    obtain ⟨first, hfirst, h⟩ := Option.bind_eq_some_iff.mp hcells
    obtain ⟨last, hlast, h⟩ := Option.bind_eq_some_iff.mp h
    rw [hfirst, hlast]
    exact ensures_pure ⟨i, name, hi.1, hfull, h, hi.2⟩
  refine hname.bind fun r hr => ?_
  obtain ⟨i, name, hi, hfull, rfl, hown⟩ := hr
  exact ensures_pure ⟨i, name, hi, hfull, rfl, hown⟩

end Rule

/-- The cell of a plain column is what the source gives, if it gives something. -/
theorem Answered.of_ensures {source : ValueSource γ} {row : RowContext} {a : Attribute} {v : Value}
    {P : Value → Prop} (h : Answered source row a v)
    (hsource : (source row a).Ensures fun r => ∃ w, r = some w ∧ P w) : P v := by
  cases h with
  | given g hv =>
    obtain ⟨w, hw, hp⟩ := hsource g
    obtain rfl := Option.some.inj (hv.symm.trans hw)
    exact hp
  | byType g hv =>
    obtain ⟨w, hw, _⟩ := hsource g
    exact absurd (hv.symm.trans hw) nofun

theorem Vocabulary.source_of_lookup? {v : Vocabulary} {row : RowContext} {a : Attribute}
    {candidates : Candidates} (h : v.lookup? row.entity a.name = some candidates) :
    v.source (γ := γ) row a = candidates.pick row := by
  unfold source
  rw [h]

/-- A column of an attribute is called like the attribute. -/
theorem Schema.name_of_attr {s : Schema} {entity : String} {c : Column} {a : Attribute}
    (hc : c ∈ s.columns entity) (ha : c.attr = some a) : a.name = c.name := by
  cases he : s.entity? entity with
  | none =>
    rw [columns_of_none he] at hc
    exact absurd hc (by simp)
  | some e =>
    rcases (mem_columns_iff he).mp hc with ⟨a', _, rfl⟩ | ⟨_, _, _, rfl⟩
    · rw [← Option.some.inj ha]
    · exact absurd ha nofun

/-- An attribute is a column. -/
theorem Schema.mem_columnNames {s : Schema} {entity name : String} {e : Entity}
    (he : s.entity? entity = some e) (h : (e.attribute? name).isSome) :
    name ∈ s.columnNames entity := by
  obtain ⟨a, ha⟩ := Option.isSome_iff_exists.mp h
  unfold Entity.attribute? at ha
  have hname := List.find?_some ha
  rw [← of_decide_eq_true hname]
  exact List.mem_map_of_mem
    ((mem_columns_iff he).mpr (Or.inl ⟨a, List.mem_of_find?_eq_some ha, rfl⟩))

/-! ## What stands before a table -/

namespace Plan

variable {source : ValueSource γ} {p : Plan} {rows : Nat} {g : γ} {d : Dataset} {name : String}

/-- The table of an entity stands where the entity stands in the order. -/
theorem exists_tableAt (hp : p.Regular) (hd : ((p.dataset source rows).run g).1 = .ok d)
    {e : Entity} (he : p.schema.entity? name = some e) :
    ∃ before after t, p.order.entities = before ++ name :: after ∧ d.entityTables name = [t] ∧
      p.TableAt d before.length e t := by
  obtain ⟨_, t, _, before, after, _, ht, ho, _⟩ :=
    one_table hp hd ((p.schema.mem_entities_iff name).mpr ⟨e, he⟩)
  have hplace : p.order.entities[before.length]? = some name := by
    rw [ho, List.getElem?_append_right (Nat.le_refl _), Nat.sub_self]
    rfl
  have hthere : (d.tables.map Table.name)[before.length]? = some name := by
    have hlt := (List.getElem?_eq_some_iff.mp hplace).1
    rw [names_of_dataset hp hd, tableNames, List.getElem?_append_left hlt, hplace]
  rw [List.getElem?_map] at hthere
  obtain ⟨t', ht', hname⟩ := Option.map_eq_some_iff.mp hthere
  have hat : p.TableAt d before.length e t' := ⟨by rw [hplace]; exact he, ht'⟩
  -- it is the one table of the entity
  have hmem : t' ∈ d.entityTables name :=
    List.mem_filter.mpr ⟨List.mem_of_getElem? ht',
      decide_eq_true ⟨(tableMade_of_tableAt hd hat).kind, hname⟩⟩
  rw [ht, List.mem_singleton] at hmem
  exact ⟨before, after, t, ho, ht, hmem ▸ hat⟩

/-- The tables before are those of the entities before. -/
theorem names_of_take (hp : p.Regular) (hd : ((p.dataset source rows).run g).1 = .ok d)
    {before after : List String} (ho : p.order.entities = before ++ after) :
    (d.tables.take before.length).map Table.name = before := by
  rw [List.map_take, names_of_dataset hp hd, tableNames, ho, List.append_assoc, List.take_left]

theorem kind_of_take (hd : ((p.dataset source rows).run g).1 = .ok d) {before after : List String}
    (ho : p.order.entities = before ++ after) {t : Table} (ht : t ∈ d.tables.take before.length) :
    t.kind = .entity := by
  obtain ⟨q, joins, hq, _, htables⟩ := dataset_ok hd
  have hle : before.length ≤ q.tables.length := by
    rw [hq.length, ho, List.length_append]
    exact Nat.le_add_right ..
  rw [htables, List.take_append_of_le_length hle] at ht
  obtain ⟨_, _, _, _, _, hmade⟩ := filled_mem hq (List.mem_of_mem_take ht)
  exact hmade.kind

/-- **The table that is found under a name is that of the first entity of the name.** -/
theorem table?_contextAt (hp : p.Regular) (hd : ((p.dataset source rows).run g).1 = .ok d)
    {before after : List String} (ho : p.order.entities = before ++ after)
    (hbefore : name ∈ before) (hfound : p.order.entities.find? (SameName · name) = some name)
    {named : Table} (hnamed : d.entityTables name = [named]) (t : Table) (i : Nat)
    (row : List Value) (j : Nat) :
    (p.contextAt rows d before.length t i row j).table? name = some named := by
  -- the first entity of the name comes before, so it is the first among those before, too
  have hfirst : before.find? (SameName · name) = some name := by
    rw [ho, List.find?_append] at hfound
    cases hfind : before.find? (SameName · name) with
    | none =>
      have hnone := List.find?_eq_none.mp hfind name hbefore
      exact absurd (decide_eq_true (rfl : SameName name name)) hnone
    | some found =>
      rw [hfind] at hfound
      exact hfound
  rw [← names_of_take hp hd ho, List.find?_map] at hfirst
  obtain ⟨t', ht', hname⟩ := Option.map_eq_some_iff.mp hfirst
  have hmem := List.mem_of_find?_eq_some ht'
  have hin : t' ∈ d.entityTables name :=
    List.mem_filter.mpr ⟨List.mem_of_mem_take hmem, decide_eq_true ⟨kind_of_take hd ho hmem, hname⟩⟩
  rw [hnamed, List.mem_singleton] at hin
  exact ht'.trans (congrArg some hin)

/-- **The keys that are found under the name of an entity are those of all its rows.** -/
theorem keysOf_contextAt {before after : List String} (ho : p.order.entities = before ++ after)
    (hbefore : name ∈ before) (hkey : p.schema.HasKey name) (t : Table) (i : Nat)
    (row : List Value) (j : Nat) :
    (p.contextAt rows d before.length t i row j).keysOf name = keyRange rows := by
  have htake : p.order.entities.take before.length = before := by rw [ho, List.take_left]
  unfold RowContext.keysOf contextAt Generation.poolsOf
  rw [htake, List.find?_map]
  -- whoever is found under that name, all have the same keys
  cases hfind : (before.filter fun name => decide (p.schema.HasKey name)).find?
      ((fun x : String × List Int => decide (SameName x.1 name)) ∘
        fun name => (name, keyRange rows)) with
  | none =>
    have hnone := List.find?_eq_none.mp hfind name
      (List.mem_filter.mpr ⟨hbefore, decide_eq_true hkey⟩)
    exact absurd (decide_eq_true (rfl : SameName name name)) hnone
  | some found => rfl

/-- A column of that name has a cell in every row. -/
theorem exists_cell? {t : Table} (hwidth : ∀ row ∈ t.rows, row.length = t.columns.length)
    {column : String} (hcolumn : column ∈ t.columns) {i : Nat} (hi : i < t.rows.length) :
    ∃ v, t.cell? i column = some v := by
  have hsome : (columnIndex? t.columns column).isSome := by
    unfold columnIndex?
    rw [List.findIdx?_isSome, List.any_eq_true]
    exact ⟨column, hcolumn, decide_eq_true rfl⟩
  obtain ⟨j, hj⟩ := Option.isSome_iff_exists.mp hsome
  have hlt : j < (t.rows[i]).length := by
    rw [hwidth _ (List.getElem_mem hi)]
    exact (List.findIdx?_eq_some_iff_getElem.mp hj).1
  refine ⟨(t.rows[i])[j], ?_⟩
  unfold Table.cell?
  rw [hj, List.getElem?_eq_getElem hi]
  exact List.getElem?_eq_getElem hlt

variable {k r i j : Nat} {e : Entity} {t : Table} {row : List Value} {c : Column}

/-- A cell before is seen under the name of its column. -/
theorem get?_contextAt {column : String} (hj : columnIndex? t.columns column = some j)
    (hlt : j < i) : (p.contextAt rows d k t r row i).get? column = row[j]? := by
  have hget : (p.contextAt rows d k t r row i).get? column = (row.take i)[j]? := by
    unfold RowContext.get? contextAt
    rw [hj]
    rfl
  rw [hget, List.getElem?_take_of_lt hlt]

theorem intIn?_contextAt {column : String} {n : Int} (hj : columnIndex? t.columns column = some j)
    (hlt : j < i) (hcell : row[j]? = some (.int n)) :
    Rule.intIn? (p.contextAt rows d k t r row i) column = some n := by
  unfold Rule.intIn?
  rw [get?_contextAt hj hlt, hcell]
  rfl

/-- **The cell of a plain column is what the vocabulary has for it.** -/
theorem cell_of_lookup? {v : Vocabulary} (hp : p.Regular)
    (hd : ((p.dataset v.source rows).run g).1 = .ok d) (he : p.schema.entity? name = some e)
    (hat : p.TableAt d k e t) (hrow : t.rows[r]? = some row)
    (hc : (p.schema.columns name)[i]? = some c) (hplain : c.Plain e) {candidates : Candidates}
    (hlookup : v.lookup? name c.name = some candidates) {P : Value → Prop}
    (hpick : (candidates.pick (γ := γ) (p.contextAt rows d k t r row i)).Ensures
      fun x => ∃ w, x = some w ∧ P w) : ∃ w, row[i]? = some w ∧ P w := by
  obtain rfl := (hp.proper _ _ he).named
  obtain ⟨a, w, ha, hw, hanswered⟩ := answered_of_ok hd hat hrow hc hplain
  have hname := Schema.name_of_attr (List.mem_of_getElem? hc) ha
  have hentity : (p.contextAt rows d k t r row i).entity = e.name :=
    (tableMade_of_tableAt hd hat).name
  refine ⟨w, hw, hanswered.of_ensures ?_⟩
  -- the source shows its context, and the rule's word is all that is left of it
  rw [Vocabulary.source_of_lookup? (by rw [hentity, hname]; exact hlookup)]
  exact hpick

/-- **A reference is the number of a row of the parent.** -/
theorem cell_of_reference (hp : p.Regular) (hd : ((p.dataset source rows).run g).1 = .ok d)
    (he : p.schema.entity? name = some e) (hat : p.TableAt d k e t) (hrow : t.rows[r]? = some row)
    (hc : (p.schema.columns name)[j]? = some c) {reference : ForeignKey}
    (hreference : c.foreignKey = some reference) :
    ∃ m : Nat, m < rows ∧ row[j]? = some (.int (m + 1)) := by
  obtain rfl := (hp.proper _ _ he).named
  have hnotkey := hp.linked.column_ne_key he (hp.proper _ _ he) (List.mem_of_getElem? hc) hreference
  obtain ⟨v, hv, hcell⟩ := tableMade_cell (tableMade_of_tableAt hd hat) hrow hc
  obtain ⟨_, _, n, hn, rfl⟩ :=
    made_foreignKey hcell hnotkey hreference (fullPools_poolsOf p.schema rows _)
  obtain ⟨m, hm, rfl⟩ := List.mem_map.mp hn
  exact ⟨m, List.mem_range.mp hm, hv⟩

/-- A reference to another entity puts that entity before. -/
theorem mem_before_of_reference (hp : p.Regular) (hrows : 0 < rows)
    (hd : ((p.dataset source rows).run g).1 = .ok d) {before after : List String}
    (ho : p.order.entities = before ++ name :: after) {reference : ForeignKey}
    (hmem : reference ∈ p.schema.keysOf name) (hne : reference.parent ≠ name) :
    reference.parent ∈ before := by
  rw [hp.mem_before_iff hmem ho]
  exact (reference_of_ok hp hrows hd hmem).2.resolve_left hne

/-! ## Authors -/

/-- Where people have a first and a last name, each has a full name. -/
theorem exists_fullName? (hp : p.Regular) (hd : ((p.dataset source rows).run g).1 = .ok d)
    (he : p.schema.entity? name = some e) (hat : p.TableAt d k e t)
    (hfirst : (e.attribute? "firstname").isSome) (hlast : (e.attribute? "lastname").isSome)
    {m : Nat} (hm : m < t.rows.length) : ∃ full, t.fullName? m = some full := by
  obtain rfl := (hp.proper _ _ he).named
  have hcolumns : t.columns = p.schema.columnNames e.name := (tableMade_of_tableAt hd hat).columns
  have hwidth : ∀ row ∈ t.rows, row.length = t.columns.length :=
    fun row hrow => width_of_ok hd (List.mem_of_getElem? hat.table) hrow
  obtain ⟨first, hfirst⟩ := exists_cell? hwidth (hcolumns ▸ Schema.mem_columnNames he hfirst) hm
  obtain ⟨last, hlast⟩ := exists_cell? hwidth (hcolumns ▸ Schema.mem_columnNames he hlast) hm
  refine ⟨first.display ++ " " ++ last.display, ?_⟩
  unfold Table.fullName?
  rw [hfirst, hlast]
  rfl

/-- A reference called like `person_id` that stands before is the row's person. -/
theorem personAt?_contextAt {people : Table} (hp : p.Regular)
    (hd : ((p.dataset source rows).run g).1 = .ok d) (he : p.schema.entity? name = some e)
    (hat : p.TableAt d k e t) (hrow : t.rows[r]? = some row)
    (hc : (p.schema.columns name)[j]? = some c) {reference : ForeignKey}
    (hreference : c.foreignKey = some reference)
    (hcolumn : columnIndex? t.columns "person_id" = some j) (hlt : j < i)
    (hpeople : people.rows.length = rows) :
    ∃ own : Nat, Rule.personAt? (p.contextAt rows d k t r row i) people = some own ∧
      row[j]? = some (.int (own + 1)) := by
  obtain ⟨own, hown, hcell⟩ := cell_of_reference hp hd he hat hrow hc hreference
  refine ⟨own, Rule.personAt?_eq_some_iff.mpr ⟨hpeople ▸ hown, ?_⟩, hcell⟩
  exact intIn?_contextAt hcolumn hlt hcell

/--
**An author has the name of a person, and of the row's own person if that stands in front.**

In the data of the standard vocabulary, if `Authorship` refers to `Person` and no other entity of
that name in any case stands before: the name in column `i` is the full name in some row of people.
If the reference in column `j` is the first column called like `person_id` and stands before the
name, that row has the key to which it refers.
-/
theorem author_is_person {mode : Undeclared} {text : String} {person authorship : Entity}
    {key : String} {c' : Column} {reference : ForeignKey}
    (hplan : ofText mode text = .ok p)
    (hd : ((p.dataset Vocabulary.standard.source rows).run g).1 = .ok d)
    (hperson : p.schema.entity? "Person" = some person) (hkey : person.primaryKey = some key)
    (hfirst : (person.attribute? "firstname").isSome)
    (hlast : (person.attribute? "lastname").isSome)
    (hfound : p.order.entities.find? (SameName · "Person") = some "Person")
    (hauthorship : p.schema.entity? "Authorship" = some authorship)
    (hc : (p.schema.columns "Authorship")[i]? = some c) (hname : c.name = "display_author_name")
    (hplain : c.Plain authorship)
    (hc' : (p.schema.columns "Authorship")[j]? = some c')
    (hreference : c'.foreignKey = some reference) (hparent : reference.parent = "Person") :
    ∃ people authors, d.entityTables "Person" = [people] ∧ d.entityTables "Authorship" = [authors] ∧
      ∀ row ∈ authors.rows, ∃ m name, people.fullName? m = some name ∧
        row[i]? = some (.text name) ∧
        (columnIndex? authors.columns "person_id" = some j → j < i →
          ∃ n : Nat, people.columns[n]? = some key ∧ people.rows[m]?.bind (·[n]?) = row[j]?) := by
  have hp := regular_ofText hplan
  obtain ⟨_, _, people, _, hpeople, hatPeople⟩ := exists_tableAt hp hd hperson
  obtain ⟨before, after, authors, ho, hauthors, hat⟩ := exists_tableAt hp hd hauthorship
  have hmade := tableMade_of_tableAt hd hatPeople
  refine ⟨people, authors, hpeople, hauthors, fun row hrow => ?_⟩
  obtain ⟨r, hr⟩ := List.mem_iff_getElem?.mp hrow
  have hrows : 0 < rows := (tableMade_of_tableAt hd hat).length ▸ List.length_pos_of_mem hrow
  have hlength : people.rows.length = rows := hmade.length
  have hbefore : "Person" ∈ before := by
    rw [← hparent]
    refine mem_before_of_reference hp hrows hd ho
      (Schema.columns_foreignKey (List.mem_of_getElem? hc') hreference).1 ?_
    rw [hparent]
    decide
  have htable : (p.contextAt rows d before.length authors r row i).table? "Person" = some people :=
    table?_contextAt hp hd ho hbefore hfound hpeople authors r row i
  have hlookup : Vocabulary.standard.lookup? "Authorship" c.name = some (.rule .authorName) := by
    rw [hname]
    decide +kernel
  have hauthor := Rule.authorNameOf_person (γ := γ) htable
    (List.ne_nil_of_length_pos (hlength ▸ hrows))
    fun _ hm => exists_fullName? hp hd hperson hatPeople hfirst hlast hm
  obtain ⟨_, hv, m, name, hm, hfull, rfl, hown⟩ :=
    cell_of_lookup? hp hd hauthorship hat hr hc hplain hlookup
      (hauthor.bind fun v hv => ensures_pure ⟨v, rfl, hv⟩)
  refine ⟨m, name, hfull, hv, fun hcolumn hlt => ?_⟩
  -- the row's own person is the one to which it refers
  obtain ⟨own, hplace, hcell⟩ :=
    personAt?_contextAt hp hd hauthorship hat hr hc' hreference hcolumn hlt hlength
  obtain rfl := hown own hplace
  have hnamed := (hp.proper _ _ hperson).named
  obtain ⟨n, _, hn⟩ := tableMade_key_place hmade (hnamed.symm ▸ hperson)
    (hnamed.symm ▸ hp.proper _ _ hperson) hkey
  refine ⟨n, hn, ?_⟩
  rw [List.getElem?_eq_getElem hm, hcell]
  exact tableMade_key_cell hmade hkey (List.getElem?_eq_getElem hm) hn

/-- People, and authors who name them in front. -/
def authorText : String :=
  "entity Person \x7b\n id : number <<generated>>\n firstname : text\n lastname : text\n\x7d\n"
    ++ "entity Authorship \x7b\n person_id : number\n display_author_name : text\n\x7d\n"
    ++ "Person ||--o\x7b Authorship\n"

/-- Each author has the name of the person in front. -/
theorem author_is_person_declaredInFront :
    ∃ p d people authors, ofText .synthesize authorText = .ok p ∧
      ((p.dataset Vocabulary.standard.source 2).run (SplitMix.mk [] 0)).1 = .ok d ∧
      d.entityTables "Person" = [people] ∧ d.entityTables "Authorship" = [authors] ∧
      ∀ row ∈ authors.rows, ∃ m name, people.fullName? m = some name ∧
        row[1]? = some (.text name) ∧
        ∃ n : Nat, people.columns[n]? = some "id" ∧ people.rows[m]?.bind (·[n]?) = row[0]? := by
  have heval : (ofText .synthesize authorText).toOption.any (fun p =>
      decide (p.schema.entity? "Person" = some ⟨"Person", [⟨"id", .number, some .generated, false⟩,
            ⟨"firstname", .text, none, false⟩, ⟨"lastname", .text, none, false⟩], some "id", true⟩ ∧
          p.order.entities.find? (SameName · "Person") = some "Person" ∧
          p.schema.entity? "Authorship" = some ⟨"Authorship", [⟨"person_id", .number, none, false⟩,
            ⟨"display_author_name", .text, none, false⟩], none, true⟩ ∧
          p.schema.columns "Authorship" =
            [⟨"person_id", some ⟨"person_id", .number, none, false⟩,
              some ⟨"person_id", "Person", some "id"⟩⟩,
            ⟨"display_author_name", some ⟨"display_author_name", .text, none, false⟩, none⟩]) &&
        ((p.dataset Vocabulary.standard.source 2).run (SplitMix.mk [] 0)).1.toOption.any fun d =>
          decide ((d.entityTables "Authorship").map Table.columns =
            [["person_id", "display_author_name"]])) = true := by
    decide +kernel
  obtain ⟨p, hplan, htest⟩ := exists_ok_of_any heval
  obtain ⟨hschema, hdata⟩ := Bool.and_eq_true_iff.mp htest
  obtain ⟨hperson, hfound, hauthorship, hcolumns⟩ := of_decide_eq_true hschema
  obtain ⟨d, hd, htest⟩ := exists_ok_of_any hdata
  have hnames := of_decide_eq_true htest
  obtain ⟨people, authors, hpeople, hauthors, hrows⟩ :=
    author_is_person (i := 1) (j := 0) hplan hd hperson rfl rfl rfl hfound hauthorship
      (by rw [hcolumns]; rfl) rfl ⟨by decide, rfl⟩ (by rw [hcolumns]; rfl) rfl rfl
  rw [hauthors] at hnames
  have hplace : columnIndex? authors.columns "person_id" = some 0 := by
    rw [show authors.columns = _ from (List.cons.inj hnames).1]
    decide +kernel
  refine ⟨p, d, people, authors, hplan, hd, hpeople, hauthors, fun row hrow => ?_⟩
  obtain ⟨m, name, hfull, hname, hown⟩ := hrows row hrow
  exact ⟨m, name, hfull, hname, hown hplace (by decide)⟩

/-- The same without a column of their own for the people, who then come last. -/
def derivedAuthorText : String :=
  "entity Person \x7b\n id : number <<generated>>\n firstname : text\n lastname : text\n\x7d\n"
    ++ "entity Authorship \x7b\n display_author_name : text\n\x7d\n"
    ++ "Person ||--o\x7b Authorship\n"

theorem author_not_person_derivedKey :
    ∃ p d, ofText .synthesize derivedAuthorText = .ok p ∧
      ((p.dataset Vocabulary.standard.source 2).run (SplitMix.mk [] 0)).1 = .ok d ∧
      (d.table? "Person").map Table.rows =
        some [[.int 1, .text "Ivana", .text "Silva"], [.int 2, .text "Nikola", .text "Ivanov"]] ∧
      (d.table? "Authorship").map Table.columns = some ["display_author_name", "Person_id"] ∧
      (d.table? "Authorship").map Table.rows =
        some [[.text "Ivana Silva", .int 1], [.text "Ivana Silva", .int 2]] := by
  have heval : (ofText .synthesize derivedAuthorText).toOption.any (fun p =>
      ((p.dataset Vocabulary.standard.source 2).run (SplitMix.mk [] 0)).1.toOption.any fun d =>
        decide ((d.table? "Person").map Table.rows =
            some [[.int 1, .text "Ivana", .text "Silva"],
              [.int 2, .text "Nikola", .text "Ivanov"]] ∧
          (d.table? "Authorship").map Table.columns = some ["display_author_name", "Person_id"] ∧
          (d.table? "Authorship").map Table.rows =
            some [[.text "Ivana Silva", .int 1], [.text "Ivana Silva", .int 2]])) = true := by
    decide +kernel
  obtain ⟨p, hplan, htest⟩ := exists_ok_of_any heval
  obtain ⟨d, hd, htest⟩ := exists_ok_of_any htest
  exact ⟨p, d, hplan, hd, of_decide_eq_true htest⟩

/-! ## Advisors and students -/

/-- Of two keys one is another than any given. -/
theorem exists_other_key (hrows : 2 ≤ rows) (n : Int) : ∃ other ∈ keyRange rows, other ≠ n := by
  by_cases h : n = 1
  · exact ⟨2, mem_keyRange.mpr (by omega), by omega⟩
  · exact ⟨1, mem_keyRange.mpr (by omega), Ne.symm h⟩

/--
**Advisors and students are people, and a student who stands behind is not the advisor.**

In the data of the standard vocabulary, if `Person` has a key and stands before `Advisorship`: the
cells in the columns `i` and `j` are keys of people. If the first column called like
`advisor_person_id` is the advisor's and stands before the student's, and there are two people at
least, the two are different.
-/
theorem student_is_not_advisor {mode : Undeclared} {text : String} {person advisorship : Entity}
    {key : String} {c' : Column} (hplan : ofText mode text = .ok p)
    (hd : ((p.dataset Vocabulary.standard.source rows).run g).1 = .ok d)
    (hperson : p.schema.entity? "Person" = some person) (hkey : person.primaryKey = some key)
    (hadvisorship : p.schema.entity? "Advisorship" = some advisorship)
    (hprecedes : p.order.Precedes "Person" "Advisorship")
    (hc : (p.schema.columns "Advisorship")[i]? = some c) (hname : c.name = "advisor_person_id")
    (hplain : c.Plain advisorship)
    (hc' : (p.schema.columns "Advisorship")[j]? = some c') (hname' : c'.name = "student_person_id")
    (hplain' : c'.Plain advisorship) :
    ∃ people advisorships, d.entityTables "Person" = [people] ∧
      d.entityTables "Advisorship" = [advisorships] ∧
      ∀ row ∈ advisorships.rows, ∃ advisor student, row[i]? = some (.int advisor) ∧
        row[j]? = some (.int student) ∧ .int advisor ∈ people.columnValues key ∧
        .int student ∈ people.columnValues key ∧
        (columnIndex? advisorships.columns "advisor_person_id" = some i → i < j → 2 ≤ rows →
          student ≠ advisor) := by
  have hp := regular_ofText hplan
  obtain ⟨_, _, people, _, hpeople, hatPeople⟩ := exists_tableAt hp hd hperson
  obtain ⟨before, after, advisorships, ho, hadvisorships, hat⟩ := exists_tableAt hp hd hadvisorship
  have hnamed := (hp.proper _ _ hperson).named
  have hvalues := tableMade_columnValues (tableMade_of_tableAt hd hatPeople)
    (hnamed.symm ▸ hperson) (hnamed.symm ▸ hp.proper _ _ hperson) hkey
  have hbefore : "Person" ∈ before := (DependencyOrder.precedes_iff hp.nodup_order ho).mp hprecedes
  have hhaskey : p.schema.HasKey "Person" := by
    unfold Schema.HasKey
    rw [hperson, Option.bind_some, hkey]
    rfl
  refine ⟨people, advisorships, hpeople, hadvisorships, fun row hrow => ?_⟩
  obtain ⟨r, hr⟩ := List.mem_iff_getElem?.mp hrow
  have hrows : 0 < rows := (tableMade_of_tableAt hd hat).length ▸ List.length_pos_of_mem hrow
  have hlookup : Vocabulary.standard.lookup? "Advisorship" c.name = some (.rule .advisor) := by
    rw [hname]
    decide +kernel
  have hlookup' : Vocabulary.standard.lookup? "Advisorship" c'.name = some (.rule .student) := by
    rw [hname']
    decide +kernel
  have hpool : ∀ column, (p.contextAt rows d before.length advisorships r row column).keysOf
      "Person" = keyRange rows := keysOf_contextAt ho hbefore hhaskey advisorships r row
  have hne : ∀ column,
      (p.contextAt rows d before.length advisorships r row column).keysOf "Person" ≠ [] :=
    fun column => hpool column ▸ keyRange_ne_nil hrows
  obtain ⟨_, hadvisor, advisor, hmem, rfl⟩ :=
    cell_of_lookup? hp hd hadvisorship hat hr hc hplain hlookup (Rule.keyFrom_mem (hne i))
  obtain ⟨_, hstudent, student, hmem', rfl, hother⟩ :=
    cell_of_lookup? hp hd hadvisorship hat hr hc' hplain' hlookup' (Rule.studentOf_mem (hne j))
  rw [hpool] at hmem hmem' hother
  rw [hvalues]
  refine ⟨advisor, student, hadvisor, hstudent, List.mem_map_of_mem hmem, List.mem_map_of_mem hmem',
    fun hcolumn hlt htwo => ?_⟩
  -- the student's rule sees the advisor
  rw [intIn?_contextAt hcolumn hlt hadvisor] at hother
  obtain ⟨other, hin, hdiff⟩ := exists_other_key htwo advisor
  exact fun he => hother ⟨other, hin, fun h => hdiff (Option.some.inj h)⟩ (congrArg some he)

/-- People, and advisors with their students. -/
def advisorText : String :=
  "entity Person \x7b\n id : number <<generated>>\n\x7d\n"
    ++ "entity Advisorship \x7b\n advisor_person_id : number\n student_person_id : number\n\x7d\n"
    ++ "Person ||--o\x7b Advisorship\n"

/-- Both are people, and they are different. -/
theorem student_is_not_advisor_declaredBehind :
    ∃ p d people advisorships, ofText .synthesize advisorText = .ok p ∧
      ((p.dataset Vocabulary.standard.source 2).run (SplitMix.mk [] 0)).1 = .ok d ∧
      d.entityTables "Person" = [people] ∧ d.entityTables "Advisorship" = [advisorships] ∧
      ∀ row ∈ advisorships.rows, ∃ advisor student, row[0]? = some (.int advisor) ∧
        row[1]? = some (.int student) ∧ .int advisor ∈ people.columnValues "id" ∧
        .int student ∈ people.columnValues "id" ∧ student ≠ advisor := by
  have heval : (ofText .synthesize advisorText).toOption.any (fun p =>
      decide (p.schema.entity? "Person" =
            some ⟨"Person", [⟨"id", .number, some .generated, false⟩], some "id", true⟩ ∧
          p.order.position? "Person" = some 0 ∧ p.order.position? "Advisorship" = some 1 ∧
          p.schema.entity? "Advisorship" = some ⟨"Advisorship",
            [⟨"advisor_person_id", .number, none, false⟩,
              ⟨"student_person_id", .number, none, false⟩], none, true⟩ ∧
          (p.schema.columns "Advisorship").take 2 =
            [⟨"advisor_person_id", some ⟨"advisor_person_id", .number, none, false⟩, none⟩,
              ⟨"student_person_id", some ⟨"student_person_id", .number, none, false⟩, none⟩]) &&
        ((p.dataset Vocabulary.standard.source 2).run (SplitMix.mk [] 0)).1.toOption.any fun d =>
          decide ((d.entityTables "Advisorship").map Table.columns =
            [["advisor_person_id", "student_person_id", "Person_id"]])) = true := by
    decide +kernel
  obtain ⟨p, hplan, htest⟩ := exists_ok_of_any heval
  obtain ⟨hschema, hdata⟩ := Bool.and_eq_true_iff.mp htest
  obtain ⟨hperson, hfirst, hsecond, hadvisorship, hcolumns⟩ := of_decide_eq_true hschema
  obtain ⟨d, hd, htest⟩ := exists_ok_of_any hdata
  have hnames := of_decide_eq_true htest
  have hc := congrArg (·[0]?) hcolumns
  have hc' := congrArg (·[1]?) hcolumns
  rw [List.getElem?_take_of_lt (by decide)] at hc hc'
  obtain ⟨people, advisorships, hpeople, hadvisorships, hrows⟩ :=
    student_is_not_advisor hplan hd hperson rfl hadvisorship ⟨0, 1, hfirst, hsecond, by decide⟩
      hc rfl ⟨by decide, rfl⟩ hc' rfl ⟨by decide, rfl⟩
  rw [hadvisorships] at hnames
  have hplace : columnIndex? advisorships.columns "advisor_person_id" = some 0 := by
    rw [show advisorships.columns = _ from (List.cons.inj hnames).1]
    decide +kernel
  refine ⟨p, d, people, advisorships, hplan, hd, hpeople, hadvisorships, fun row hrow => ?_⟩
  obtain ⟨advisor, student, hadvisor, hstudent, hmem, hmem', hother⟩ := hrows row hrow
  exact ⟨advisor, student, hadvisor, hstudent, hmem, hmem',
    hother hplace (by decide) (Nat.le_refl 2)⟩

/-- The same with the student in front. -/
def studentText : String :=
  "entity Person \x7b\n id : number <<generated>>\n\x7d\n"
    ++ "entity Advisorship \x7b\n student_person_id : number\n advisor_person_id : number\n\x7d\n"
    ++ "Person ||--o\x7b Advisorship\n"

theorem student_is_advisor_declaredInFront :
    ∃ p d, ofText .synthesize studentText = .ok p ∧
      ((p.dataset Vocabulary.standard.source 2).run (SplitMix.mk [] 0)).1 = .ok d ∧
      p.order.Precedes "Person" "Advisorship" ∧
      (d.table? "Person").map Table.rows = some [[.int 1], [.int 2]] ∧
      (d.table? "Advisorship").map Table.columns =
        some ["student_person_id", "advisor_person_id", "Person_id"] ∧
      (d.table? "Advisorship").map Table.rows =
        some [[.int 1, .int 2, .int 2], [.int 1, .int 1, .int 1]] := by
  have heval : (ofText .synthesize studentText).toOption.any (fun p =>
      ((p.dataset Vocabulary.standard.source 2).run (SplitMix.mk [] 0)).1.toOption.any fun d =>
        decide ((p.order.position? "Person" = some 0 ∧ p.order.position? "Advisorship" = some 1) ∧
          (d.table? "Person").map Table.rows = some [[.int 1], [.int 2]] ∧
          (d.table? "Advisorship").map Table.columns =
            some ["student_person_id", "advisor_person_id", "Person_id"] ∧
          (d.table? "Advisorship").map Table.rows =
            some [[.int 1, .int 2, .int 2], [.int 1, .int 1, .int 1]])) = true := by
    decide +kernel
  obtain ⟨p, hplan, htest⟩ := exists_ok_of_any heval
  obtain ⟨d, hd, htest⟩ := exists_ok_of_any htest
  obtain ⟨hplaces, hrows⟩ := of_decide_eq_true htest
  exact ⟨p, d, hplan, hd, ⟨0, 1, hplaces.1, hplaces.2, by decide⟩, hrows⟩

end Plan

end Crowfoot
