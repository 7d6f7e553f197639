import Crowfoot.Proofs.Declaration
import Crowfoot.Proofs.WrittenLine

/-!
# A written diagram is read back

The lines of a written text are the lines that were written, and each is read as what it was written
for. So the text reads as a block for each entity and then the relationships, and what such lines
declare is the diagram: each block is the only one of its name, and a relationship has the number of
its line. The order of the blocks is free.
-/

namespace Crowfoot

open Text

/-! ## The lines of a written text -/

namespace Text

theorem dropReturn_of_trimmed {line : List Char} (h : trim line = line) : dropReturn line = line := by
  -- a carriage return is a blank, and the line does not end with one
  have hend := (trim_eq_self_iff.mp h).2
  unfold dropReturn
  rw [if_neg]
  intro hlast
  rw [← List.head?_reverse] at hlast
  exact absurd (hend _ hlast) (by decide)

theorem linesAfter_append {line : List Char} (h : '\n' ∉ line) (current rest : List Char) :
    linesAfter current (line ++ '\n' :: rest) =
      dropReturn (current.reverse ++ line) :: linesAfter [] rest := by
  induction line generalizing current with
  | nil => rw [List.nil_append, linesAfter, List.append_nil]
  | cons c cs ih =>
    have hc : c ≠ '\n' := fun he => h (he ▸ List.mem_cons_self ..)
    have hcs : '\n' ∉ cs := fun hin => h (List.mem_cons_of_mem _ hin)
    rw [List.cons_append, linesAfter.eq_3 _ _ _ hc, ih hcs]
    simp

/-- **Lines that are put together are the lines of the text.** -/
theorem lines_join {ls : List String} (hline : ∀ l ∈ ls, '\n' ∉ l.toList)
    (htrim : ∀ l ∈ ls, trim l.toList = l.toList) :
    lines (String.join (ls.map (· ++ "\n"))).toList = ls.map String.toList := by
  unfold lines
  induction ls with
  | nil => rfl
  | cons l rest ih =>
    have hl := hline l (List.mem_cons_self ..)
    have hjoin : (String.join ((l :: rest).map (· ++ "\n"))).toList =
        l.toList ++ '\n' :: (String.join (rest.map (· ++ "\n"))).toList := by
      simp
    rw [hjoin, linesAfter_append hl, List.reverse_nil, List.nil_append,
      dropReturn_of_trimmed (htrim l (List.mem_cons_self ..)),
      ih (fun l' hl' => hline l' (List.mem_cons_of_mem _ hl'))
        (fun l' hl' => htrim l' (List.mem_cons_of_mem _ hl')), List.map_cons]

end Text

/-! ## What can be written -/

/-- An entity that can be written: a declared one whose key is the last of its generated attributes. -/
structure Entity.Writable (e : Entity) : Prop where
  name : IsName e.name
  declared : e.declared = true
  attributes : ∀ a ∈ e.attributes, a.Writable
  key : e.primaryKey = (e.attributes.filter Attribute.isGenerated).getLast?.map Attribute.name

theorem Entity.Writable.eq_ofBlock {e : Entity} (h : e.Writable) :
    e = .ofBlock e.name e.attributes := by
  unfold ofBlock
  rw [← h.key, ← h.declared]

/-- A diagram that can be written. -/
structure Diagram.Writable (d : Diagram) : Prop where
  /-- Entities are stored under their own names. -/
  named : ∀ (name : String) (e : Entity), d.entities[name]? = some e → e.name = name
  entities : ∀ (name : String) (e : Entity), d.entities[name]? = some e → e.Writable
  relationships : ∀ r ∈ d.relationships, r.Writable

/-! ## Each line is read back -/

/-- An entity as it is read. -/
def Entity.block (e : Entity) : List Line :=
  .entityOpen e.name :: (e.attributes.map .attr ++ [.entityClose])

/-- A relationship as it is read. -/
def Relationship.asLine (r : Relationship) : Line :=
  .relationship r.left r.connector r.right r.label

/-- The lines of entities and relationships as they are read. -/
def asLines (es : List Entity) (rs : List Relationship) : List Line :=
  es.flatMap Entity.block ++ rs.map Relationship.asLine

theorem Entity.Writable.map_written {e : Entity} (h : e.Writable) :
    e.written.map (Line.ofText ·.toList) = e.block := by
  have hattrs : e.attributes.map (fun a => Line.ofText a.written.toList) = e.attributes.map .attr :=
    List.map_congr_left fun a ha => (h.attributes a ha).ofText_written
  have hclose : Line.ofText "\x7d".toList = .entityClose := by decide
  unfold written block
  rw [List.map_cons, List.map_append, List.map_map, ofText_opening h.name]
  exact congrArg (Line.entityOpen e.name :: ·) (congrArg₂ (· ++ ·) hattrs (congrArg ([·]) hclose))

/-- A line that is written is whole: it has no line feed in it and no blank at its ends. -/
theorem Entity.Writable.whole {e : Entity} (h : e.Writable) {l : String} (hl : l ∈ e.written) :
    '\n' ∉ l.toList ∧ trim l.toList = l.toList := by
  rcases List.mem_cons.mp hl with rfl | hl
  · exact ⟨one_line_opening h.name, (plain_opening e).1⟩
  · rcases List.mem_append.mp hl with hl | hl
    · obtain ⟨a, ha, rfl⟩ := List.mem_map.mp hl
      exact ⟨(h.attributes a ha).one_line_written, (h.attributes a ha).plain_written.1⟩
    · rw [List.mem_singleton.mp hl]
      decide

section Written

variable {es : List Entity} {rs : List Relationship}

theorem map_writtenLines (hes : ∀ e ∈ es, e.Writable) (hrs : ∀ r ∈ rs, r.Writable) :
    (Diagram.writtenLines es rs).map (Line.ofText ·.toList) = asLines es rs := by
  have hblocks : (es.flatMap Entity.written).map (Line.ofText ·.toList) = es.flatMap Entity.block := by
    rw [List.map_flatMap]
    exact List.flatMap_congr fun e he => (hes e he).map_written
  have hlinks : rs.map (fun r => Line.ofText r.written.toList) = rs.map Relationship.asLine :=
    List.map_congr_left fun r hr => (hrs r hr).ofText_written
  unfold Diagram.writtenLines asLines
  rw [List.map_append, hblocks, List.map_map]
  exact congrArg (_ ++ ·) hlinks

theorem lines_write (hes : ∀ e ∈ es, e.Writable) (hrs : ∀ r ∈ rs, r.Writable) :
    lines (Diagram.write es rs).toList = (Diagram.writtenLines es rs).map String.toList := by
  have hwhole : ∀ l ∈ Diagram.writtenLines es rs, '\n' ∉ l.toList ∧ trim l.toList = l.toList := by
    intro l hl
    rcases List.mem_append.mp hl with hl | hl
    · obtain ⟨e, he, hl⟩ := List.mem_flatMap.mp hl
      exact (hes e he).whole hl
    · obtain ⟨r, hr, rfl⟩ := List.mem_map.mp hl
      exact ⟨(hrs r hr).one_line_written, (hrs r hr).plain_written.1⟩
  exact lines_join (fun l hl => (hwhole l hl).1) fun l hl => (hwhole l hl).2

/-- **A written text reads as a block for each entity and a line for each relationship.** -/
theorem readLines_write (hes : ∀ e ∈ es, e.Writable) (hrs : ∀ r ∈ rs, r.Writable) :
    readLines (Diagram.write es rs) = asLines es rs := by
  unfold readLines
  rw [lines_write hes hrs, List.map_map]
  exact map_writtenLines hes hrs

end Written

/-! ## What the blocks declare -/

/-- The relationships with the numbers of successive lines. -/
def numbered (number : Nat) (rs : List Relationship) : List Relationship :=
  (rs.zipIdx number).map fun (r, line) => { r with line }

section Blocks

variable {name : String} {e : Entity} {es : List Entity} {rs : List Relationship}

theorem relationshipsFrom_append (number : Nat) (front back : List Line) :
    relationshipsFrom number (front ++ back) =
      relationshipsFrom number front ++ relationshipsFrom (number + front.length) back := by
  unfold relationshipsFrom
  rw [List.zipIdx_append, List.filterMap_append]

theorem relationshipsFrom_eq_nil {ls : List Line} (h : ∀ line ∈ ls, ∀ number, line.relates? number = none)
    (number : Nat) : relationshipsFrom number ls = [] := by
  unfold relationshipsFrom
  rw [List.filterMap_eq_nil_iff]
  intro x hx
  exact h x.1 (List.fst_mem_of_mem_zipIdx hx) x.2

theorem relationshipsFrom_asLine (number : Nat) (rs : List Relationship) :
    relationshipsFrom number (rs.map Relationship.asLine) = numbered number rs := by
  induction rs generalizing number with
  | nil => rfl
  | cons r rest ih =>
    have htail := ih (number + 1)
    unfold relationshipsFrom numbered at htail ⊢
    rw [List.map_cons, List.zipIdx_cons, List.zipIdx_cons, List.filterMap_cons, List.map_cons, htail]
    rfl

theorem relates?_block {line : Line} (h : line ∈ e.block) (number : Nat) :
    line.relates? number = none := by
  rcases List.mem_cons.mp h with rfl | h
  · rfl
  · rcases List.mem_append.mp h with h | h
    · obtain ⟨a, _, rfl⟩ := List.mem_map.mp h
      rfl
    · rw [List.mem_singleton.mp h]
      rfl

theorem blockAttributes_append (attributes : List Attribute) (rest : List Line) :
    blockAttributes (attributes.map .attr ++ .entityClose :: rest) = attributes := by
  unfold blockAttributes
  induction attributes with
  | nil => rfl
  | cons a more ih => exact congrArg (a :: ·) ih

theorem lastBlock?_append {front : List Line} (h : .entityOpen name ∉ front) (rest : List Line) :
    lastBlock? name (front ++ rest) = lastBlock? name rest := by
  induction front with
  | nil => rfl
  | cons line more ih =>
    have hline : line ≠ .entityOpen name := fun he => h (he ▸ List.mem_cons_self ..)
    rw [List.cons_append, lastBlock?, ih fun hin => h (List.mem_cons_of_mem _ hin), if_neg hline,
      Option.or_none]

/-- A block counts unless there is another one of its name behind it. -/
theorem lastBlock?_block (e : Entity) (rest : List Line) :
    lastBlock? name (e.block ++ rest) =
      (lastBlock? name rest).or (if e.name = name then some e.attributes else none) := by
  have hbody : .entityOpen name ∉ e.attributes.map Line.attr ++ [.entityClose] := by
    simp
  have hsplit : e.block ++ rest =
      .entityOpen e.name :: ((e.attributes.map .attr ++ [.entityClose]) ++ rest) := rfl
  have hattrs : blockAttributes ((e.attributes.map .attr ++ [.entityClose]) ++ rest) = e.attributes := by
    rw [List.append_assoc]
    exact blockAttributes_append e.attributes rest
  rw [hsplit, lastBlock?, lastBlock?_append hbody, hattrs]
  simp only [Line.entityOpen.injEq]

theorem entityOpen_notMem_asLine (name : String) (rs : List Relationship) :
    .entityOpen name ∉ rs.map Relationship.asLine := by
  intro h
  obtain ⟨r, _, hr⟩ := List.mem_map.mp h
  exact absurd hr (by simp [Relationship.asLine])

theorem entityOpen_mem_asLines : .entityOpen name ∈ asLines es rs ↔ name ∈ es.map Entity.name := by
  have hrest := entityOpen_notMem_asLine name rs
  simp only [asLines, List.mem_append, List.mem_flatMap, hrest, or_false, List.mem_map]
  constructor
  · intro h
    obtain ⟨e, he, hline⟩ := h
    have hname : name = e.name := by simpa [Entity.block] using hline
    exact ⟨e, he, hname.symm⟩
  · intro h
    obtain ⟨e, he, rfl⟩ := h
    exact ⟨e, he, List.mem_cons_self ..⟩

/-- **Of blocks with different names each is the last of its name.** -/
theorem lastBlock?_asLines (hnodup : (es.map Entity.name).Nodup) (he : e ∈ es) :
    lastBlock? e.name (asLines es rs) = some e.attributes := by
  induction es with
  | nil => exact absurd he (by simp)
  | cons first rest ih =>
    obtain ⟨hfirst, hrest⟩ := List.nodup_cons.mp hnodup
    have hsplit : asLines (first :: rest) rs = first.block ++ asLines rest rs := by
      unfold asLines
      rw [List.flatMap_cons, List.append_assoc]
    rw [hsplit, lastBlock?_block]
    rcases List.mem_cons.mp he with rfl | he
    · -- no other block has the name
      have hnone : lastBlock? e.name (asLines rest rs) = none :=
        lastBlock?_eq_none_iff.mpr fun hopen => hfirst (entityOpen_mem_asLines.mp hopen)
      rw [hnone, if_pos rfl, Option.none_or]
    · rw [ih hrest he]
      rfl

end Blocks

namespace Diagram

variable {d : Diagram} {es : List Entity}

/-- The entities of a diagram, in any order. -/
def Lists (es : List Entity) (d : Diagram) : Prop := es.Perm (d.entities.toList.map Prod.snd)

theorem Lists.mem_entities_iff (h : Lists es d) {e : Entity} :
    e ∈ es ↔ ∃ name : String, d.entities[name]? = some e := by
  rw [List.Perm.mem_iff h, List.mem_map]
  constructor
  · intro hmem
    obtain ⟨⟨name, e⟩, hmem, rfl⟩ := hmem
    exact ⟨name, Std.ExtTreeMap.mem_toList_iff_getElem?_eq_some.mp hmem⟩
  · intro hname
    obtain ⟨name, hname⟩ := hname
    exact ⟨(name, e), Std.ExtTreeMap.mem_toList_iff_getElem?_eq_some.mpr hname, rfl⟩

theorem Lists.nodup_names (h : Lists es d) (hd : d.Writable) : (es.map Entity.name).Nodup := by
  have hnames : (d.entities.toList.map Prod.snd).map Entity.name = d.entities.keys := by
    rw [← Std.ExtTreeMap.map_fst_toList_eq_keys, List.map_map]
    refine List.map_congr_left fun x hx => ?_
    exact hd.named x.1 x.2 (Std.ExtTreeMap.mem_toList_iff_getElem?_eq_some.mp hx)
  have hperm := h.map Entity.name
  rw [hnames] at hperm
  exact hperm.nodup_iff.mpr Std.ExtTreeMap.nodup_keys

/-- **The lines that are written for a diagram declare it.** -/
theorem Writable.declaredBy_asLines (hd : d.Writable) (hes : Lists es d) :
    DeclaredBy ⟨d.entities, numbered ((es.flatMap Entity.written).length + 1) d.relationships⟩
      (asLines es d.relationships) := by
  have hlength : (es.flatMap Entity.block).length = (es.flatMap Entity.written).length := by
    simp [List.length_flatMap, Entity.block, Entity.written]
  refine ⟨?_, fun name => ?_, fun name attributes hlast => ?_⟩
  · -- the lines of the blocks only move the numbers on
    have hblocks : relationshipsFrom 1 (es.flatMap Entity.block) = [] := by
      refine relationshipsFrom_eq_nil (fun line hline number => ?_) 1
      obtain ⟨e, _, hline⟩ := List.mem_flatMap.mp hline
      exact relates?_block hline number
    unfold asLines
    rw [relationshipsFrom_append, hblocks, List.nil_append, relationshipsFrom_asLine, hlength,
      Nat.add_comm]
  · rw [entityOpen_mem_asLines, Named.mem_iff_getElem?, List.mem_map]
    constructor
    · intro h
      obtain ⟨e, he⟩ := h
      exact ⟨e, hes.mem_entities_iff.mpr ⟨name, he⟩, hd.named name e he⟩
    · intro h
      obtain ⟨e, he, rfl⟩ := h
      obtain ⟨name, hname⟩ := hes.mem_entities_iff.mp he
      exact ⟨e, hd.named name e hname ▸ hname⟩
  · -- the block is that of an entity of the name
    have hopen : .entityOpen name ∈ asLines es d.relationships := by
      obtain ⟨before, after, hsplit, _⟩ := hlast
      rw [hsplit]
      exact List.mem_append_right _ (List.mem_cons_self ..)
    obtain ⟨e, he, rfl⟩ := List.mem_map.mp (entityOpen_mem_asLines.mp hopen)
    have hattrs := lastBlock?_eq_some_iff.mpr hlast
    rw [lastBlock?_asLines (hes.nodup_names hd) he] at hattrs
    obtain ⟨name, hname⟩ := hes.mem_entities_iff.mp he
    rw [← Option.some.inj hattrs, ← (hd.entities name e hname).eq_ofBlock, hd.named name e hname]
    exact hname

theorem getElem?_writtenLines {r : Relationship} (es : List Entity) (rs : List Relationship)
    (h : r ∈ numbered ((es.flatMap Entity.written).length + 1) rs) :
    (writtenLines es rs)[r.line - 1]? = some r.written := by
  obtain ⟨⟨r', line⟩, hmem, rfl⟩ := List.mem_map.mp h
  obtain ⟨hle, hat⟩ := List.mem_zipIdx_iff_le_and_getElem?_sub.mp hmem
  simp only at hle hat ⊢
  unfold writtenLines
  rw [List.getElem?_append_right (by omega), List.getElem?_map, Nat.sub_sub, Nat.add_comm 1, hat]
  rfl

/--
**Every diagram can be written and read back.**

Let the names, types, marks, labels and connectors of a diagram be ones that can be written, and its
keys be what its blocks say. Written with its entities in any order, it is read back as it is, each
relationship with the number of the line on which it is written.
-/
theorem ofText_write (hd : d.Writable) (hes : Lists es d) :
    ofText (write es d.relationships) =
      ⟨d.entities, numbered ((es.flatMap Entity.written).length + 1) d.relationships⟩ ∧
    ∀ r ∈ (ofText (write es d.relationships)).relationships,
      (lines (write es d.relationships).toList)[r.line - 1]? = some r.written.toList := by
  have hentities : ∀ e ∈ es, e.Writable := by
    intro e he
    obtain ⟨name, hname⟩ := hes.mem_entities_iff.mp he
    exact hd.entities name e hname
  -- the text declares what is read, and its lines declare the diagram: it is one and the same
  have hdeclared := declaredBy_ofText (write es d.relationships)
  rw [readLines_write hentities hd.relationships] at hdeclared
  have hread := hdeclared.unique (hd.declaredBy_asLines hes)
  refine ⟨hread, fun r hr => ?_⟩
  rw [hread] at hr
  rw [lines_write hentities hd.relationships, List.getElem?_map, getElem?_writtenLines es _ hr]
  rfl

/-- An entity and an attribute that are called like the word before a block. -/
def blockNamed : Entity := .ofBlock "entity"
  [⟨"entity", .number, some .generated, true⟩,
    ⟨"_1", .other "decimal(10,2)", some (.other "a > b"), false⟩]

/-- A diagram with lines that resemble others. -/
def lookalike : Diagram where
  entities := (∅ : Named Entity).insert "entity" blockNamed |>.insert "o" (.ofBlock "o" [])
  relationships :=
    [⟨"entity", "o", ⟨"o|", "--", "o\x7b"⟩, some "a : 'b' << c >> \x7d", 0⟩,
      ⟨"o", "o", ⟨"\x7d|", "..", "|\x7b"⟩, none, 0⟩]

theorem ofText_write_lookalike :
    (ofText (write [.ofBlock "o" [], blockNamed] lookalike.relationships)).entities =
      lookalike.entities ∧
    (ofText (write [.ofBlock "o" [], blockNamed] lookalike.relationships)).relationships =
      [⟨"entity", "o", ⟨"o|", "--", "o\x7b"⟩, some "a : 'b' << c >> \x7d", 7⟩,
        ⟨"o", "o", ⟨"\x7d|", "..", "|\x7b"⟩, none, 8⟩] := by
  have hlists : Lists [.ofBlock "o" [], blockNamed] lookalike := List.Perm.swap blockNamed _ []
  -- the two entities are checked one by one
  have hentity : ∀ (name : String) (e : Entity), lookalike.entities[name]? = some e →
      (name = "entity" ∧ e = blockNamed) ∨ (name = "o" ∧ e = .ofBlock "o" []) := by
    intro name e he
    have hmem : (name, e) ∈ [("entity", blockNamed), ("o", .ofBlock "o" [])] :=
      Std.ExtTreeMap.mem_toList_iff_getElem?_eq_some.mpr he
    simpa using hmem
  obtain ⟨hnames, htokens, htype, htexts, hmark, hconnectors⟩ :
      (∀ name ∈ ["entity", "o", "_1"], IsName name) ∧
      (∀ token ∈ ["number", "decimal(10,2)"], IsToken token) ∧
      (∀ word ∈ DataType.builtIn, ¬ SameName "decimal(10,2)" word) ∧
      (∀ text ∈ ["a > b", "a : 'b' << c >> \x7d"],
        text ≠ "" ∧ trim text.toList = text.toList ∧ '\n' ∉ text.toList) ∧
      (¬ ['>', '>'] <:+: "a > b".toList ∧ Line.quote ∉ "a > b".toList ∧
        ¬ SameName "a > b" "generated") ∧
      (∀ r ∈ lookalike.relationships, r.connector.left ∈ Connector.leftEnds ∧
        r.connector.body ∈ Connector.bodies ∧ r.connector.right ∈ Connector.rightEnds) := by
    -- all that is asked of names, words and texts is decided once
    decide +kernel
  have hattributes : ∀ a ∈ blockNamed.attributes, a.Writable := by
    intro a ha
    rcases List.mem_pair.mp ha with rfl | rfl
    · refine ⟨hnames _ (by simp), htokens _ (by simp [DataType.token]), ?_, ?_⟩
      · intro token h
        exact absurd h (by simp)
      · intro text h
        exact absurd h (by simp)
    · refine ⟨hnames _ (by simp), htokens _ (by simp [DataType.token]), ?_, ?_⟩
      · intro token h
        rw [← DataType.other.inj h]
        exact htype
      · intro text h
        obtain ⟨_, htrimmed, hwhole⟩ := htexts "a > b" (by simp)
        rw [← Stereotype.other.inj (Option.some.inj h)]
        exact ⟨⟨htrimmed, hmark.1, hwhole, hmark.2.1⟩, hmark.2.2⟩
  have hwritable : lookalike.Writable := by
    refine ⟨?_, ?_, ?_⟩
    · intro name e he
      rcases hentity name e he with ⟨rfl, rfl⟩ | ⟨rfl, rfl⟩ <;> rfl
    · intro name e he
      rcases hentity name e he with ⟨_, rfl⟩ | ⟨_, rfl⟩
      · exact ⟨hnames _ (by decide), rfl, hattributes, rfl⟩
      · exact ⟨hnames _ (by decide), rfl, fun a ha => absurd ha (by simp [Entity.ofBlock]), rfl⟩
    · intro r hr
      obtain ⟨hleft, hbody, hright⟩ := hconnectors r hr
      rcases List.mem_pair.mp hr with rfl | rfl
      · refine ⟨hnames _ (by simp), hnames _ (by simp), ⟨hleft, hbody, hright⟩, ?_⟩
        intro text h
        rw [← Option.some.inj h]
        obtain ⟨hne, htrimmed, hwhole⟩ := htexts "a : 'b' << c >> \x7d" (by simp)
        exact ⟨hne, htrimmed, hwhole⟩
      · refine ⟨hnames _ (by simp), hnames _ (by simp), ⟨hleft, hbody, hright⟩, ?_⟩
        intro text h
        exact absurd h (by simp)
  obtain ⟨hread, _⟩ := ofText_write hwritable hlists
  rw [hread]
  exact ⟨rfl, rfl⟩

end Diagram

end Crowfoot
