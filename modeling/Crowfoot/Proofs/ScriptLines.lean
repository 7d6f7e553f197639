import Crowfoot.Proofs.ScriptText

/-!
# The lines of a script that add constraints

A constraint is added on a line of its own, and no other line begins like one: those of a table are
indented, and no type breaks a line. So the names of the constraints can be read off the lines,
whatever the types are.
-/

namespace Crowfoot

open Text

namespace Sql

/-- The child and the column of the foreign key that a statement adds. -/
def Statement.added? : Statement → Option (String × String)
  | createTable _ _ _ _ => none
  | noColumns _ => none
  | addForeignKey child r => some (child, r.column)
  | noParentKey _ _ _ => none

/-- The names of the constraints that statements add. -/
def constraintNames (statements : List Statement) : List String :=
  (statements.filterMap Statement.added?).map fun x => constraintName x.1 x.2

theorem constraintNames_append (statements more : List Statement) :
    constraintNames (statements ++ more) = constraintNames statements ++ constraintNames more := by
  unfold constraintNames
  rw [List.filterMap_append, List.map_append]

theorem constraintNames_cons (stmt : Statement) (rest : List Statement) :
    constraintNames (stmt :: rest) = constraintNames [stmt] ++ constraintNames rest :=
  constraintNames_append [stmt] rest

/-- The name of the constraint that a line adds, if it adds one. -/
def addedName? (line : List Char) : Option String := do
  let (_, rest) ← Line.name? (← Line.after? "ALTER TABLE " line)
  let (name, _) ← Line.name? (← Line.after? " ADD CONSTRAINT " rest)
  return name

/-- The names of the constraints that the lines of a text add. -/
def addedNames (text : String) : List String := (text.toList.splitOn '\n').filterMap addedName?

/-! ## Texts on one line -/

/-- The text has no line feed. -/
def OneLine (text : String) : Prop := '\n' ∉ text.toList

instance (text : String) : Decidable (OneLine text) := inferInstanceAs (Decidable (_ ∉ _))

theorem OneLine.append {text more : String} (h : OneLine text) (hmore : OneLine more) :
    OneLine (text ++ more) := by
  intro hin
  rw [String.toList_append] at hin
  exact (List.mem_append.mp hin).elim h hmore

theorem OneLine.intercalate {sep : String} {items : List String} (hsep : OneLine sep)
    (h : ∀ item ∈ items, OneLine item) : OneLine (sep.intercalate items) := by
  induction items with
  | nil => exact List.not_mem_nil
  | cons item rest ih =>
    obtain ⟨hitem, hrest⟩ := List.forall_mem_cons.mp h
    cases rest with
    | nil => exact hitem
    | cons next more =>
      rw [String.intercalate_cons_cons]
      exact (hitem.append hsep).append (ih hrest)

theorem oneLine_of_isName {name : String} (h : IsName name) : OneLine name :=
  h.not_mem (by decide +kernel)

theorem oneLine_of_unbroken {text : String} (h : Unbroken text) : OneLine text :=
  fun hin => absurd (h '\n' hin) (by decide)

theorem ColumnDef.Spelled.oneLine {c : ColumnDef} (h : c.Spelled Unbroken) : OneLine c.render := by
  have hif : ∀ (b : Bool) (text : String), OneLine text → OneLine (if b then text else "") := by
    intro b text htext
    cases b with
    | true => exact htext
    | false => exact List.not_mem_nil
  have hgap : OneLine " " := by decide +kernel
  have hnot : OneLine " NOT NULL" := by decide +kernel
  have hauto : OneLine " AUTO_INCREMENT" := by decide +kernel
  have htype := ((oneLine_of_isName h.name).append hgap).append (oneLine_of_unbroken h.type)
  exact (htype.append (hif c.notNull _ hnot)).append (hif c.autoIncrement _ hauto)

theorem Reference.Spelled.oneLine {r : Reference} (h : r.Spelled) : OneLine r.render := by
  have hopen : OneLine "FOREIGN KEY (" := by decide +kernel
  have hto : OneLine ") REFERENCES " := by decide +kernel
  have hkey : OneLine " (" := by decide +kernel
  have hclose : OneLine ")" := by decide +kernel
  have hcolumn := hopen.append (oneLine_of_isName h.column)
  have htable := (hcolumn.append hto).append (oneLine_of_isName h.table)
  exact ((htable.append hkey).append (oneLine_of_isName h.key)).append hclose

/-- **A part of a table is on one line.** -/
theorem Part.Spelled.oneLine {part : Part} (h : part.Spelled Unbroken) : OneLine part.render := by
  cases part with
  | column c => exact ColumnDef.Spelled.oneLine h
  | key columns =>
    have hopen : OneLine "PRIMARY KEY (" := by decide +kernel
    have hcomma : OneLine ", " := by decide +kernel
    have hclose : OneLine ")" := by decide +kernel
    have hnames := hcomma.intercalate fun name hname => oneLine_of_isName (h.2 name hname)
    exact (hopen.append hnames).append hclose
  | reference r => exact Reference.Spelled.oneLine h

/-! ## Whole lines -/

/-- The text is of whole lines, which add these names. -/
def Adds (text : String) (names : List String) : Prop :=
  ∀ rest, addedNames (text ++ rest) = names ++ addedNames rest

theorem Adds.addedNames_eq {text : String} {names : List String} (h : Adds text names) :
    addedNames text = names := by
  have hall := h ""
  rw [String.append_empty] at hall
  exact hall.trans (List.append_nil names)

theorem Adds.append {text more : String} {names others : List String} (h : Adds text names)
    (hmore : Adds more others) : Adds (text ++ more) (names ++ others) := by
  intro rest
  rw [String.append_assoc, h, hmore, List.append_assoc]

/-- **A line adds what it says, whatever comes behind it.** -/
theorem adds_line {line : String} (h : OneLine line) :
    Adds (line ++ "\n") (addedName? line.toList).toList := by
  intro rest
  have hsplit : (line ++ "\n" ++ rest).toList.splitOn '\n' =
      line.toList :: rest.toList.splitOn '\n' := by
    have htext : (line ++ "\n" ++ rest).toList = line.toList ++ '\n' :: rest.toList := by simp
    rw [htext, List.splitOn,
      List.splitOnP_append_cons (p := (· == '\n')) _ _ (beq_self_eq_true _)]
    exact congrArg (· ++ rest.toList.splitOn '\n') (List.splitOn_eq_singleton h)
  unfold addedNames
  rw [hsplit, List.filterMap_cons]
  cases addedName? line.toList <;> rfl

/-- A line that begins in another way adds nothing. -/
theorem adds_other {line : String} (h : OneLine line) (hother : line.toList.head? ≠ some 'A') :
    Adds (line ++ "\n") [] := by
  have hfront : Line.after? "ALTER TABLE " line.toList = none := by
    cases hline : line.toList with
    | nil => rfl
    | cons c cs =>
      have hc : ('A' == c) = false := by
        refine beq_eq_false_iff_ne.mpr fun he => hother ?_
        rw [hline, ← he]
        rfl
      -- the first character tells, so the rest of the words need not be compared
      show ('A' :: "LTER TABLE ".toList).isPrefixOf? (c :: cs) = none
      rw [List.isPrefixOf?, hc]
      rfl
  have hnone : addedName? line.toList = none := by
    unfold addedName?
    rw [hfront]
    rfl
  have hadds := adds_line h
  rwa [hnone] at hadds

/-- **The parts of a table are indented, so they add nothing.** -/
theorem adds_renderParts {parts : List String} (hne : parts ≠ [])
    (h : ∀ part ∈ parts, OneLine part) : Adds (renderParts parts ++ "\n") [] := by
  have hindent : OneLine "    " := by decide +kernel
  have hcomma : OneLine "," := by decide +kernel
  have hhead : ∀ text : String, ("    " ++ text).toList.head? ≠ some 'A' := by simp
  unfold renderParts
  induction parts with
  | nil => exact absurd rfl hne
  | cons part rest ih =>
    obtain ⟨hpart, hrest⟩ := List.forall_mem_cons.mp h
    cases rest with
    | nil => exact adds_other (hindent.append hpart) (hhead part)
    | cons next more =>
      -- the part, its comma and the line feed are a line, and the other parts are theirs
      have hline := adds_other (hindent.append (hpart.append hcomma)) (hhead (part ++ ","))
      have hall := hline.append (ih (List.cons_ne_nil next more) hrest)
      have htext : ",\n".intercalate ((part :: next :: more).map ("    " ++ ·)) ++ "\n" =
          "    " ++ (part ++ ",") ++ "\n"
            ++ (",\n".intercalate ((next :: more).map ("    " ++ ·)) ++ "\n") := by
        rw [List.map_cons, List.map_cons, String.intercalate_cons_cons]
        simp only [String.append_assoc]
        rfl
      rw [htext]
      exact hall

/-! ## Statements -/

theorem addedName?_foreignKey {child name : String} (hchild : IsName child) (hname : IsName name)
    {rest : List Char} (hrest : Stops Line.isNameChar rest) :
    addedName? ("ALTER TABLE ".toList ++ (child.toList ++ (" ADD CONSTRAINT ".toList
      ++ (name.toList ++ rest)))) = some name := by
  have hstop : Stops Line.isNameChar (" ADD CONSTRAINT ".toList ++ (name.toList ++ rest)) :=
    Stops.cons_iff (c := ' ').mpr (by decide +kernel)
  have hchild := Line.name?_append hchild hstop
  unfold addedName?
  dsimp only [Option.bind_eq_bind]
  rw [Line.after?_append, Option.bind_some, hchild, Option.bind_some]
  dsimp only
  rw [Line.after?_append, Option.bind_some, Line.name?_append hname hrest]
  rfl

/-- **The lines of a statement add its constraint, if it is for one.** -/
theorem Statement.Spelled.adds {stmt : Statement} (h : stmt.Spelled Unbroken) :
    Adds stmt.render (constraintNames [stmt]) := by
  have hdashes : OneLine "-- " := by decide +kernel
  cases stmt with
  | createTable name columns primaryKey references =>
    obtain ⟨hname, hcolumns, hparts⟩ := h
    have hcreate : OneLine "CREATE TABLE " := by decide +kernel
    have hopen : OneLine " (" := by decide +kernel
    have hclose : OneLine ");" := by decide +kernel
    have hhead := adds_other ((hcreate.append (oneLine_of_isName hname)).append hopen) (by simp)
    -- the parts are the lines between the first and the last one
    have hlist : Adds (renderParts ((partsOf columns primaryKey references).map Part.render)
        ++ "\n") [] := by
      refine adds_renderParts (by simpa using partsOf_ne_nil hcolumns primaryKey references) ?_
      intro part hpart
      obtain ⟨p, hp, rfl⟩ := List.mem_map.mp hpart
      exact (hparts p hp).oneLine
    have hall := (hhead.append hlist).append (adds_other hclose (by simp))
    have htext : Statement.render (.createTable name columns primaryKey references) =
        "CREATE TABLE " ++ name ++ " (" ++ "\n"
          ++ (renderParts ((partsOf columns primaryKey references).map Part.render) ++ "\n")
          ++ (");" ++ "\n") := by
      -- the text is cut at its line feeds
      rw [← render_partsOf]
      show "CREATE TABLE " ++ name ++ (" (" ++ "\n") ++ _ ++ ("\n" ++ (");" ++ "\n")) = _
      simp only [String.append_assoc]
    rw [htext]
    exact hall
  | noColumns name =>
    have hrest : OneLine ": no columns declared" := by decide +kernel
    have hline := (hdashes.append (oneLine_of_isName h)).append hrest
    have hall := adds_other hline (by simp)
    rw [String.append_assoc] at hall
    exact hall
  | addForeignKey child r =>
    obtain ⟨hchild, hr⟩ := h
    have hname := isName_constraintName hchild hr.column
    have halter : OneLine "ALTER TABLE " := by decide +kernel
    have hadd : OneLine " ADD CONSTRAINT " := by decide +kernel
    have hgap : OneLine " " := by decide +kernel
    have hclose : OneLine ";" := by decide +kernel
    have hhead := (halter.append (oneLine_of_isName hchild)).append hadd
    have hmid := (hhead.append (oneLine_of_isName hname)).append hgap
    have hall := adds_line ((hmid.append hr.oneLine).append hclose)
    have hstop : Stops Line.isNameChar (" ".toList ++ (r.render.toList ++ ";".toList)) :=
      Stops.cons_iff (c := ' ').mpr (by decide +kernel)
    -- the one kind of line that adds something
    have hadded := addedName?_foreignKey hchild hname hstop
    have hline : ("ALTER TABLE " ++ child ++ " ADD CONSTRAINT " ++ constraintName child r.column
        ++ " " ++ r.render ++ ";").toList = "ALTER TABLE ".toList ++ (child.toList
          ++ (" ADD CONSTRAINT ".toList ++ ((constraintName child r.column).toList
            ++ (" ".toList ++ (r.render.toList ++ ";".toList))))) := by
      simp only [String.toList_append, List.append_assoc]
    rw [hline, hadded, String.append_assoc] at hall
    exact hall
  | noParentKey child column parent =>
    obtain ⟨hchild, hcolumn, hparent⟩ := h
    have hdot : OneLine "." := by decide +kernel
    have hcolon : OneLine ": " := by decide +kernel
    have hrest : OneLine " has no primary key, constraint skipped" := by decide +kernel
    have hend := (hdashes.append (oneLine_of_isName hchild)).append hdot
    have hmid := (hend.append (oneLine_of_isName hcolumn)).append hcolon
    have hall := adds_other ((hmid.append (oneLine_of_isName hparent)).append hrest) (by simp)
    rw [String.append_assoc] at hall
    exact hall

/-! ## Scripts -/

theorem adds_join {text : Statement → String} {statements : List Statement}
    (h : ∀ stmt ∈ statements, Adds (text stmt) (constraintNames [stmt])) :
    Adds (String.join (statements.map text)) (constraintNames statements) := by
  induction statements with
  | nil => exact fun rest => congrArg addedNames String.empty_append
  | cons stmt rest ih =>
    obtain ⟨hstmt, hrest⟩ := List.forall_mem_cons.mp h
    rw [List.map_cons, String.join_cons, constraintNames_cons]
    exact hstmt.append (ih hrest)

/-- **The lines of a script add the constraints of its statements.** -/
theorem addedNames_render {s : Script} (h : ∀ stmt ∈ s.statements, stmt.Spelled Unbroken) :
    addedNames s.render = constraintNames s.statements := by
  have hmem : ∀ stmt, stmt ∈ s.tables ∨ stmt ∈ s.foreignKeys ∨ stmt ∈ s.joinTables →
      Adds stmt.render (constraintNames [stmt]) := fun stmt hstmt =>
    (h stmt (by simpa [Script.statements] using hstmt)).adds
  have hempty : OneLine "" := by decide
  have hfeed := adds_other hempty (by decide)
  rw [String.empty_append] at hfeed
  have htables : Adds (String.join (s.tables.map (·.render ++ "\n")))
      (constraintNames s.tables) := by
    refine adds_join fun stmt hstmt => ?_
    have hall := (hmem stmt (Or.inl hstmt)).append hfeed
    rwa [List.append_nil] at hall
  have hkeys : Adds (String.join (s.foreignKeys.map Statement.render))
      (constraintNames s.foreignKeys) :=
    adds_join fun stmt hstmt => hmem stmt (Or.inr (Or.inl hstmt))
  have hjoins : Adds (String.join (s.joinTables.map ("\n" ++ ·.render)))
      (constraintNames s.joinTables) :=
    adds_join fun stmt hstmt => hfeed.append (hmem stmt (Or.inr (Or.inr hstmt)))
  -- tables, constraints and join tables stand in this order in both
  rw [Script.statements, constraintNames_append, constraintNames_append]
  exact ((htables.append hkeys).append hjoins).addedNames_eq

end Sql

/-- **The lines of the text add the constraints of the statements, whatever the types are.** -/
theorem Plan.addedNames_sql {mode : Undeclared} {text : String} {p : Plan}
    (h : ofText mode text = .ok p) :
    Sql.addedNames p.sql = Sql.constraintNames p.script.statements :=
  Sql.addedNames_render (spelled_statements h (hasTypes_unbroken h))

end Crowfoot
