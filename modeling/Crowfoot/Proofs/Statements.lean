import Crowfoot.Proofs.Tokens

/-!
# A script is read back as its statements

What is written of a statement has the tokens of its names and of the types in it, and the reader
finds the parts of a table by the commas that are not in parentheses. So a statement is read back
if its names are names and its types are types: a type that has a comma of its own, or an open
parenthesis, would be read as more than one part or as less.
-/

namespace Crowfoot.Sql

open Text

/-! ## Within statements -/

/-- No token ends the statement, and none is a comment. -/
def Inner (ts : List Token) : Prop := ∀ t ∈ ts, t ≠ .sign ';' ∧ ∀ text, t ≠ .comment text

theorem Inner.append {ts us : List Token} (h : Inner ts) (h' : Inner us) : Inner (ts ++ us) :=
  fun t ht => (List.mem_append.mp ht).elim (h t) (h' t)

/-- A part of a table has neither a semicolon nor a comment in it. -/
theorem inner_of_depth {ts : List Token} {level level' : Nat}
    (h : ts.foldlM Token.depth level = some level') : Inner ts := by
  induction ts generalizing level with
  | nil => exact fun _ ht => absurd ht (by simp)
  | cons u rest ih =>
    rw [List.foldlM_cons] at h
    obtain ⟨next, hnext, hrest⟩ := Option.bind_eq_some_iff.mp h
    intro t ht
    rcases List.mem_cons.mp ht with rfl | ht
    · constructor
      · rintro rfl
        exact absurd hnext nofun
      · rintro text rfl
        exact absurd hnext nofun
    · exact ih hrest t ht

/-- Words open no parentheses. -/
theorem depth_of_words {ts : List Token} (h : ∀ t ∈ ts, ∃ w, t = .word w) (level : Nat) :
    ts.foldlM Token.depth level = some level := by
  induction ts with
  | nil => rfl
  | cons t rest ih =>
    obtain ⟨⟨w, rfl⟩, hrest⟩ := List.forall_mem_cons.mp h
    rw [List.foldlM_cons]
    exact ih hrest

/-! ## Lists with commas -/

/-- Tokens with a comma between each two items. -/
def commaed : List (List Token) → List Token
  | [] => []
  | [ts] => ts
  | ts :: us :: rest => ts ++ .sign ',' :: commaed (us :: rest)

theorem mem_commaed {t : Token} {items : List (List Token)} (h : t ∈ commaed items) :
    t = .sign ',' ∨ ∃ ts ∈ items, t ∈ ts := by
  induction items with
  | nil => exact absurd h (by simp [commaed])
  | cons ts rest ih =>
    cases rest with
    | nil => exact Or.inr ⟨ts, List.mem_singleton_self ts, h⟩
    | cons us more =>
      rw [commaed, List.mem_append, List.mem_cons] at h
      rcases h with h | h | h
      · exact Or.inr ⟨ts, List.mem_cons_self .., h⟩
      · exact Or.inl h
      · exact (ih h).imp_right fun ⟨vs, hvs, ht⟩ => ⟨vs, List.mem_cons_of_mem ts hvs, ht⟩

/-- Texts with a separator between them are read as their tokens with commas. -/
theorem Lexes.intercalate {α : Type} {sep : String} {text : α → String} {tokens : α → List Token}
    (hsep : Lexes true sep [.sign ',']) (hbegins : Begins sep) {items : List α} (hne : items ≠ [])
    (h : ∀ x ∈ items, Lexes false (text x) (tokens x)) :
    Lexes false (sep.intercalate (items.map text)) (commaed (items.map tokens)) := by
  induction items with
  | nil => exact absurd rfl hne
  | cons x rest ih =>
    obtain ⟨hx, hrest⟩ := List.forall_mem_cons.mp h
    cases rest with
    | nil => exact hx
    | cons y more =>
      have hmore := ih (List.cons_ne_nil y more) hrest
      rw [List.map_cons, List.map_cons, String.intercalate_cons_cons, List.map_cons, List.map_cons,
        commaed, List.append_cons]
      exact (hx.append hsep (Or.inr hbegins)).append hmore (Or.inl rfl)

/-! ## Columns -/

/-- A column whose name is a name and whose type is of the kind. -/
structure ColumnDef.Spelled (kind : String → Prop) (c : ColumnDef) : Prop where
  name : IsName c.name
  type : kind c.type

/-- A reference of names. -/
structure Reference.Spelled (r : Reference) : Prop where
  column : IsName r.column
  table : IsName r.table
  key : IsName r.key

/-- The text is a type, and in one piece. -/
def IsColumnType (type : String) : Prop := isType type = true ∧ Unbroken type

instance (type : String) : Decidable (IsColumnType type) := inferInstanceAs (Decidable (_ ∧ _))

/-- The tokens of a type. -/
def typeTokens (type : String) : List Token := (tokens? type).getD []

theorem typeTokens_of_isType {type : String} (h : isType type = true) :
    tokens? type = some (typeTokens type) ∧ (typeTokens type).foldlM Token.depth 0 = some 0 ∧
      ∀ t ∈ typeTokens type, t ∉ .word "KEY" :: optionWords := by
  unfold isType at h
  unfold typeTokens
  cases hts : tokens? type with
  | none =>
    rw [hts] at h
    exact absurd h nofun
  | some ts =>
    rw [hts, Option.any_some, Bool.and_eq_true, List.all_eq_true] at h
    exact ⟨rfl, of_decide_eq_true h.1, fun t ht => of_decide_eq_true (h.2 t ht)⟩

/-- A type has its tokens wherever it stands. No comment in it would go on behind it. -/
theorem lexes_type {type : String} (h : isType type = true) :
    Lexes false type (typeTokens type) := by
  obtain ⟨htokens, hdepth, _⟩ := typeTokens_of_isType h
  exact .of_tokens? htokens fun text ht => (inner_of_depth hdepth _ ht).2 text rfl

/-- The words behind the type of a column. -/
def ColumnDef.optionTokens (c : ColumnDef) : List Token :=
  (if c.notNull then [.word "NOT", .word "NULL"] else [])
    ++ if c.autoIncrement then [.word "AUTO_INCREMENT"] else []

theorem options?_optionTokens (c : ColumnDef) :
    options? c.optionTokens = some (c.notNull, c.autoIncrement) := by
  unfold ColumnDef.optionTokens
  cases c.notNull <;> cases c.autoIncrement <;> rfl

/-- The tokens of a column. -/
def ColumnDef.tokens (c : ColumnDef) : List Token :=
  .word c.name :: (typeTokens c.type ++ c.optionTokens)

/-- The tokens of a reference. -/
def Reference.tokens (r : Reference) : List Token :=
  [.word "FOREIGN", .word "KEY", .sign '(', .word r.column, .sign ')', .word "REFERENCES",
    .word r.table, .sign '(', .word r.key, .sign ')']

/-- The tokens of a primary key. -/
def keyTokens (columns : List String) : List Token :=
  [.word "PRIMARY", .word "KEY", .sign '('] ++ commaed (columns.map ([.word ·])) ++ [.sign ')']

/-- What is there only under a condition is read as what is there. -/
theorem Lexes.append_if {text more : String} {ts us : List Token} (h : Lexes false text ts)
    (hmore : Lexes false more us) (hbegins : Begins more) (b : Bool) :
    Lexes false (text ++ if b then more else "") (ts ++ if b then us else []) := by
  cases b with
  | true => exact h.append hmore (Or.inr hbegins)
  | false => simpa using h

/-- **A column is read as its name, the tokens of its type and what else there is to it.** -/
theorem ColumnDef.Spelled.lexes {c : ColumnDef} (h : c.Spelled IsColumnType) :
    Lexes false c.render c.tokens := by
  have htype := lexes_type h.type.1
  have hgap : Lexes true " " [] := by decide +kernel
  have hnot : Lexes false " NOT NULL" [.word "NOT", .word "NULL"] := by decide +kernel
  have hauto : Lexes false " AUTO_INCREMENT" [.word "AUTO_INCREMENT"] := by decide +kernel
  have hname := (Lexes.word h.name).append hgap (Or.inr (by decide +kernel))
  have hall := ((hname.append htype (Or.inl rfl)).append_if hnot (by decide +kernel)
    c.notNull).append_if hauto (by decide +kernel) c.autoIncrement
  simpa [ColumnDef.render, ColumnDef.tokens, ColumnDef.optionTokens] using hall

theorem ColumnDef.optionTokens_words (c : ColumnDef) : ∀ t ∈ c.optionTokens, ∃ w, t = .word w := by
  unfold ColumnDef.optionTokens
  cases c.notNull <;> cases c.autoIncrement <;> simp

/-- The first word behind a type is none that a type has. -/
theorem ColumnDef.optionTokens_head (c : ColumnDef) :
    c.optionTokens = [] ∨ ∃ t ts, c.optionTokens = t :: ts ∧ t ∈ optionWords := by
  unfold ColumnDef.optionTokens
  cases c.notNull <;> cases c.autoIncrement <;> simp [optionWords]

theorem column?_tokens {c : ColumnDef} (h : c.Spelled IsColumnType) :
    column? c.tokens = some c := by
  obtain ⟨_, _, hwords⟩ := typeTokens_of_isType h.type.1
  have hplain : ∀ t ∈ typeTokens c.type, decide (t ∉ optionWords) = true := fun t ht =>
    decide_eq_true fun hmem => hwords t ht (List.mem_cons_of_mem _ hmem)
  -- the type goes as far as the first word of an option, and no word of a type is one
  have hstop : c.optionTokens.takeWhile (· ∉ optionWords) = [] ∧
      c.optionTokens.dropWhile (· ∉ optionWords) = c.optionTokens := by
    rcases c.optionTokens_head with hnil | ⟨t, ts, hcons, ht⟩
    · rw [hnil]
      exact ⟨rfl, rfl⟩
    · rw [hcons]
      simp [ht]
  unfold ColumnDef.tokens column?
  dsimp only
  rw [List.takeWhile_append_of_pos hplain, List.dropWhile_append_of_pos hplain, hstop.1, hstop.2,
    options?_optionTokens, List.append_nil, (lexes_type h.type.1).written h.type.2,
    String.ofList_toList]
  rfl

/-! ## Parts -/

/-- The names in a part of a table are names, and the type is of the kind. -/
def Part.Spelled (kind : String → Prop) : Part → Prop
  | column c => c.Spelled kind
  | key columns => columns ≠ [] ∧ ∀ name ∈ columns, IsName name
  | reference r => r.Spelled

/-- The text of a part. -/
def Part.render : Part → String
  | column c => c.render
  | key columns => "PRIMARY KEY (" ++ ", ".intercalate columns ++ ")"
  | reference r => r.render

/-- The tokens of a part. -/
def Part.tokens : Part → List Token
  | column c => c.tokens
  | key columns => keyTokens columns
  | reference r => r.tokens

theorem Reference.Spelled.lexes {r : Reference} (h : r.Spelled) :
    Lexes false r.render r.tokens := by
  have hopen : Lexes true "FOREIGN KEY (" [.word "FOREIGN", .word "KEY", .sign '('] := by
    decide +kernel
  have hto : Lexes true ") REFERENCES " [.sign ')', .word "REFERENCES"] := by decide +kernel
  have hkey : Lexes true " (" [.sign '('] := by decide +kernel
  have hclose : Lexes false ")" [.sign ')'] := by decide +kernel
  have hcolumn := (hopen.append (.word h.column) (Or.inl rfl)).append hto
    (Or.inr (by decide +kernel))
  have htable := (hcolumn.append (.word h.table) (Or.inl rfl)).append hkey
    (Or.inr (by decide +kernel))
  exact (htable.append (.word h.key) (Or.inl rfl)).append hclose (Or.inr (by decide +kernel))

theorem lexes_key {columns : List String} (hne : columns ≠ []) (h : ∀ name ∈ columns, IsName name) :
    Lexes false ("PRIMARY KEY (" ++ ", ".intercalate columns ++ ")") (keyTokens columns) := by
  have hopen : Lexes true "PRIMARY KEY (" [.word "PRIMARY", .word "KEY", .sign '('] := by
    decide +kernel
  have hcomma : Lexes true ", " [.sign ','] := by decide +kernel
  have hclose : Lexes false ")" [.sign ')'] := by decide +kernel
  have hwords : ∀ name ∈ columns, Lexes false (id name) [.word name] := fun name hname =>
    Lexes.word (h name hname)
  have hnames := hcomma.intercalate (by decide +kernel) hne hwords
  rw [List.map_id] at hnames
  exact (hopen.append hnames (Or.inl rfl)).append hclose (Or.inr (by decide +kernel))

theorem Part.Spelled.lexes {p : Part} (h : p.Spelled IsColumnType) :
    Lexes false p.render p.tokens := by
  cases p with
  | column c => exact ColumnDef.Spelled.lexes h
  | key columns => exact lexes_key h.1 h.2
  | reference r => exact Reference.Spelled.lexes h

/-- The commas between the names of a key are in parentheses. -/
theorem depth_names (names : List String) :
    (commaed (names.map ([Token.word ·]))).foldlM Token.depth 1 = some 1 := by
  induction names with
  | nil => rfl
  | cons name rest ih =>
    cases rest with
    | nil => rfl
    | cons next more => exact ih

/-- **A part is in one piece**: its parentheses are closed and its commas are in them. -/
theorem Part.Spelled.depth {p : Part} (h : p.Spelled IsColumnType) :
    p.tokens.foldlM Token.depth 0 = some 0 := by
  cases p with
  | column c =>
    have htype := (typeTokens_of_isType (ColumnDef.Spelled.type h).1).2.1
    show (typeTokens c.type ++ c.optionTokens).foldlM Token.depth 0 = some 0
    rw [List.foldlM_append, htype]
    exact depth_of_words c.optionTokens_words 0
  | key columns =>
    show (commaed (columns.map ([Token.word ·])) ++ [Token.sign ')']).foldlM Token.depth 1 = some 0
    rw [List.foldlM_append, depth_names]
    rfl
  | reference r => rfl

theorem names?_commaed {names : List String} (hne : names ≠ []) :
    names? (commaed (names.map ([Token.word ·])) ++ [.sign ')']) = some names := by
  induction names with
  | nil => exact absurd rfl hne
  | cons name rest ih =>
    cases rest with
    | nil => rfl
    | cons next more =>
      have hrest := ih (List.cons_ne_nil next more)
      show names? (.word name :: .sign ',' ::
        (commaed ((next :: more).map ([Token.word ·])) ++ [.sign ')'])) = _
      rw [names?, hrest]
      rfl

/-- Behind the name of a column there is no word that would make it a key or a reference. -/
theorem ColumnDef.Spelled.tokens_ne {c : ColumnDef} (h : c.Spelled IsColumnType) (t : Token)
    (ts : List Token) : c.tokens ≠ t :: .word "KEY" :: ts := by
  intro he
  have hrest : typeTokens c.type ++ c.optionTokens = .word "KEY" :: ts := (List.cons.inj he).2
  -- the word would be the first one of the type, or of the options
  cases htype : typeTokens c.type with
  | nil =>
    rw [htype, List.nil_append] at hrest
    rcases c.optionTokens_head with hnil | ⟨u, us, hcons, hu⟩
    · exact absurd (hnil.symm.trans hrest) nofun
    · rw [hcons] at hrest
      rw [(List.cons.inj hrest).1] at hu
      exact absurd hu (by decide)
  | cons u us =>
    rw [htype] at hrest
    have hword := (typeTokens_of_isType h.type.1).2.2 u (htype ▸ List.mem_cons_self ..)
    rw [(List.cons.inj hrest).1] at hword
    exact hword (List.mem_cons_self ..)

theorem part?_column {c : ColumnDef} (h : c.Spelled IsColumnType) :
    part? c.tokens = some (.column c) := by
  -- a column is tried last, so the other two readers must fail on it
  have hkey : keyClause? c.tokens = none := by
    unfold keyClause?
    split
    · rename_i ts he
      exact absurd he (h.tokens_ne _ _)
    · rfl
  have hreference : reference? c.tokens = none := by
    unfold reference?
    split
    · rename_i he
      exact absurd he (h.tokens_ne _ _)
    · rfl
  unfold part?
  rw [hkey, hreference, column?_tokens h]
  rfl

/-- **A part is read back.** -/
theorem part?_tokens {p : Part} (h : p.Spelled IsColumnType) : part? p.tokens = some p := by
  cases p with
  | column c => exact part?_column h
  | key columns =>
    have hkey : keyClause? (keyTokens columns) = some columns := names?_commaed h.1
    show part? (keyTokens columns) = _
    unfold part?
    rw [hkey]
  | reference r => rfl

/-! ## Statements -/

/-- The parts of a table. -/
def partsOf (columns : List ColumnDef) (primaryKey : List String) (references : List Reference) :
    List Part :=
  columns.map .column ++ (if primaryKey = [] then [] else [.key primaryKey])
    ++ references.map .reference

/-- The names in a statement are names, and the types are of the kind. -/
def Statement.Spelled (kind : String → Prop) : Statement → Prop
  | createTable name columns primaryKey references =>
    IsName name ∧ columns ≠ [] ∧ ∀ p ∈ partsOf columns primaryKey references, p.Spelled kind
  | noColumns name => IsName name
  | addForeignKey child r => IsName child ∧ r.Spelled
  | noParentKey child column parent => IsName child ∧ IsName column ∧ IsName parent

theorem spelled_createTable {kind : String → Prop} {name : String} {columns : List ColumnDef}
    {primaryKey : List String} {references : List Reference} (hname : IsName name)
    (hne : columns ≠ []) (hcolumns : ∀ c ∈ columns, c.Spelled kind)
    (hkey : ∀ key ∈ primaryKey, IsName key) (hreferences : ∀ r ∈ references, r.Spelled) :
    (Statement.createTable name columns primaryKey references).Spelled kind := by
  refine ⟨hname, hne, fun p hp => ?_⟩
  simp only [partsOf, List.mem_append, List.mem_map] at hp
  rcases hp with (hp | hp) | hp
  · obtain ⟨c, hc, rfl⟩ := hp
    exact hcolumns c hc
  · -- the primary key is a part only if it has columns
    split at hp
    · exact absurd hp List.not_mem_nil
    · rename_i hne
      rw [List.mem_singleton.mp hp]
      exact ⟨hne, hkey⟩
  · obtain ⟨r, hr, rfl⟩ := hp
    exact hreferences r hr

/-- The tokens of a table, but for the semicolon. -/
def tableTokens (name : String) (parts : List Part) : List Token :=
  [.word "CREATE", .word "TABLE", .word name, .sign '('] ++ commaed (parts.map Part.tokens)
    ++ [.sign ')']

/-- The tokens of a foreign key, but for the semicolon. -/
def foreignKeyTokens (child : String) (r : Reference) : List Token :=
  [.word "ALTER", .word "TABLE", .word child, .word "ADD", .word "CONSTRAINT",
    .word (constraintName child r.column)] ++ r.tokens

/-- The tokens of a statement. -/
def Statement.tokens : Statement → List Token
  | createTable name columns primaryKey references =>
    tableTokens name (partsOf columns primaryKey references) ++ [.sign ';']
  | noColumns name => [.comment (" " ++ name ++ ": no columns declared")]
  | addForeignKey child r => foreignKeyTokens child r ++ [.sign ';']
  | noParentKey child column parent =>
    [.comment (" " ++ child ++ "." ++ column ++ ": " ++ parent
      ++ " has no primary key, constraint skipped")]

theorem render_partsOf (columns : List ColumnDef) (primaryKey : List String)
    (references : List Reference) :
    columns.map ColumnDef.render ++ keyClause primaryKey ++ references.map Reference.render =
      (partsOf columns primaryKey references).map Part.render := by
  unfold partsOf
  rw [List.map_append, List.map_append, List.map_map, List.map_map]
  congr 2
  cases primaryKey with
  | nil => rfl
  | cons _ _ => rfl

theorem partsOf_ne_nil {columns : List ColumnDef} (h : columns ≠ []) (primaryKey : List String)
    (references : List Reference) : partsOf columns primaryKey references ≠ [] := by
  unfold partsOf
  simp [h]

theorem lexes_renderParts {parts : List Part} (hne : parts ≠ [])
    (h : ∀ p ∈ parts, p.Spelled IsColumnType) :
    Lexes false (renderParts (parts.map Part.render)) (commaed (parts.map Part.tokens)) := by
  have hsep : Lexes true ",\n" [.sign ','] := by decide +kernel
  have hindent : Lexes true "    " [] := by decide +kernel
  have hpart : ∀ p ∈ parts, Lexes false ("    " ++ p.render) p.tokens := fun p hp =>
    hindent.append (h p hp).lexes (Or.inl rfl)
  have hlines : (parts.map Part.render).map ("    " ++ ·) = parts.map ("    " ++ Part.render ·) :=
    List.map_map
  rw [renderParts, hlines]
  exact hsep.intercalate (by decide +kernel) hne hpart

theorem isName_constraintName {child column : String} (hchild : IsName child)
    (hcolumn : IsName column) : IsName (constraintName child column) := by
  have hfront : IsName "fk_" := by decide +kernel
  have hglue : IsName "_" := by decide +kernel
  exact ((hfront.append hchild.2).append hglue.2).append hcolumn.2

theorem run_comment {cs : List Char} (h : '\n' ∉ cs) (front : List Char) :
    Lexer.run ⟨[], .comment front⟩ cs = some ⟨[], .comment (front ++ cs)⟩ := by
  induction cs generalizing front with
  | nil =>
    rw [List.append_nil]
    rfl
  | cons c cs ih =>
    have hc : c ≠ '\n' := fun he => h (he ▸ List.mem_cons_self ..)
    have hrest : '\n' ∉ cs := fun hin => h (List.mem_cons_of_mem _ hin)
    have hstep : Lexer.step ⟨[], .comment front⟩ c = some ⟨[], .comment (front ++ [c])⟩ := by
      simp [Lexer.step, hc]
    rw [Lexer.run_cons, hstep, Option.bind_some, ih hrest, List.append_assoc, List.singleton_append]

/-- A line behind two dashes is a comment. -/
theorem lexes_comment {text : String} (h : '\n' ∉ text.toList) :
    Lexes true ("-- " ++ text ++ "\n") [.comment (" " ++ text)] := by
  have hdashes : Lexer.start.run "-- ".toList = some ⟨[], .comment [' ']⟩ := by decide +kernel
  have hfeed : Lexer.run ⟨[], .comment (' ' :: text.toList)⟩ "\n".toList =
      some ⟨[.comment (" " ++ text)], .between⟩ := by
    simp [Lexer.run, Lexer.step, Lexer.closed, Place.tokens]
  refine ⟨⟨[.comment (" " ++ text)], .between⟩, ?_, rfl, ?_⟩
  · rw [String.toList_append, String.toList_append, Lexer.run_append, Lexer.run_append, hdashes,
      Option.bind_some, run_comment h, Option.bind_some, List.singleton_append, hfeed]
  · simp [Lexer.closed, Place.tokens]

/-- **A statement is read as its tokens, whatever comes behind it.** -/
theorem Statement.Spelled.lexes {stmt : Statement} (h : stmt.Spelled IsColumnType) :
    Lexes true stmt.render stmt.tokens := by
  have hfeed : Line.isNameChar '\n' = false := by decide +kernel
  cases stmt with
  | createTable name columns primaryKey references =>
    obtain ⟨hname, hcolumns, hparts⟩ := h
    have hcreate : Lexes true "CREATE TABLE " [.word "CREATE", .word "TABLE"] := by decide +kernel
    have hopen : Lexes true " (\n" [.sign '('] := by decide +kernel
    have hclose : Lexes true "\n);\n" [.sign ')', .sign ';'] := by decide +kernel
    -- fixed words around the parts, each of which is read up to its own end
    have hlist := lexes_renderParts (partsOf_ne_nil hcolumns primaryKey references) hparts
    have hhead := (hcreate.append (.word hname) (Or.inl rfl)).append hopen
      (Or.inr (by decide +kernel))
    have hall := (hhead.append hlist (Or.inl rfl)).append hclose (Or.inr (by decide +kernel))
    have htokens : Statement.tokens (.createTable name columns primaryKey references) =
        [.word "CREATE", .word "TABLE"] ++ [.word name] ++ [.sign '(']
          ++ commaed ((partsOf columns primaryKey references).map Part.tokens)
          ++ [.sign ')', .sign ';'] := by
      simp [Statement.tokens, tableTokens]
    rw [← render_partsOf] at hall
    rw [htokens]
    exact hall
  | noColumns name =>
    have hname : IsName name := h
    have hline : '\n' ∉ (name ++ ": no columns declared").toList := by
      simp [hname.not_mem hfeed]
    have hcomment := lexes_comment hline
    show Lexes true ("-- " ++ name ++ ": no columns declared\n") _
    simpa [Statement.tokens, String.append_assoc] using hcomment
  | addForeignKey child r =>
    obtain ⟨hchild, hr⟩ := h
    have halter : Lexes true "ALTER TABLE " [.word "ALTER", .word "TABLE"] := by decide +kernel
    have hadd : Lexes true " ADD CONSTRAINT " [.word "ADD", .word "CONSTRAINT"] := by decide +kernel
    have hgap : Lexes true " " [] := by decide +kernel
    have hclose : Lexes true ";\n" [.sign ';'] := by decide +kernel
    -- the name of the constraint is glued from names, so it is one word
    have hname := Lexes.word (isName_constraintName hchild hr.column)
    have hhead := (halter.append (.word hchild) (Or.inl rfl)).append hadd
      (Or.inr (by decide +kernel))
    have hconstraint := (hhead.append hname (Or.inl rfl)).append hgap (Or.inr (by decide +kernel))
    have hall := (hconstraint.append hr.lexes (Or.inl rfl)).append hclose
      (Or.inr (by decide +kernel))
    have htokens : Statement.tokens (.addForeignKey child r) =
        [.word "ALTER", .word "TABLE"] ++ [.word child] ++ [.word "ADD", .word "CONSTRAINT"]
          ++ [.word (constraintName child r.column)] ++ [] ++ r.tokens ++ [.sign ';'] := by
      simp [Statement.tokens, foreignKeyTokens]
    rw [htokens]
    exact hall
  | noParentKey child column parent =>
    obtain ⟨hchild, hcolumn, hparent⟩ := h
    have hline : '\n' ∉ (child ++ "." ++ column ++ ": " ++ parent
        ++ " has no primary key, constraint skipped").toList := by
      simp [hchild.not_mem hfeed, hcolumn.not_mem hfeed, hparent.not_mem hfeed]
    have hcomment := lexes_comment hline
    show Lexes true ("-- " ++ child ++ "." ++ column ++ ": " ++ parent
      ++ " has no primary key, constraint skipped\n") _
    simpa [Statement.tokens, String.append_assoc] using hcomment

/-! ## Reading statements -/

theorem parts?_append {ts : List Token} {level level' : Nat}
    (h : ts.foldlM Token.depth level = some level') (part rest : List Token) :
    parts? level part (ts ++ rest) = parts? level' (part ++ ts) rest := by
  induction ts generalizing level part with
  | nil =>
    obtain rfl := Option.some.inj h
    rw [List.append_nil]
    rfl
  | cons t ts ih =>
    rw [List.foldlM_cons] at h
    obtain ⟨next, hnext, hrest⟩ := Option.bind_eq_some_iff.mp h
    rw [List.cons_append, parts?, hnext]
    dsimp only
    rw [ih hrest, List.append_assoc, List.singleton_append]

/-- **The parts of a table are found by the commas between them.** -/
theorem parts?_commaed {items : List (List Token)} (hne : items ≠ [])
    (h : ∀ ts ∈ items, ts.foldlM Token.depth 0 = some 0) :
    parts? 0 [] (commaed items ++ [Token.sign ')']) = some items := by
  induction items with
  | nil => exact absurd rfl hne
  | cons ts rest ih =>
    obtain ⟨hts, hrest⟩ := List.forall_mem_cons.mp h
    cases rest with
    | nil =>
      rw [commaed, parts?_append hts]
      rfl
    | cons us more =>
      rw [commaed, List.append_assoc, List.cons_append, parts?_append hts, List.nil_append]
      -- the comma ended the part, and the rest is read from outside of all parentheses
      show (do return ts :: (← parts? 0 [] (commaed (us :: more) ++ [Token.sign ')']))) = _
      rw [ih (List.cons_ne_nil us more) hrest]
      rfl

theorem mapM_part? {parts : List Part} (h : ∀ p ∈ parts, p.Spelled IsColumnType) :
    (parts.map Part.tokens).mapM part? = some parts := by
  induction parts with
  | nil => rfl
  | cons p rest ih =>
    obtain ⟨hp, hrest⟩ := List.forall_mem_cons.mp h
    rw [List.map_cons, List.mapM_cons, part?_tokens hp, ih hrest]
    rfl

theorem table?_partsOf (name : String) (columns : List ColumnDef) (primaryKey : List String)
    (references : List Reference) :
    table? name (partsOf columns primaryKey references) =
      some (.createTable name columns primaryKey references) := by
  have hcolumns : (partsOf columns primaryKey references).filterMap Part.column? = columns := by
    unfold partsOf
    cases primaryKey <;> simp [List.filterMap_map, Function.comp_def, Part.column?]
  have hreferences : (partsOf columns primaryKey references).filterMap Part.reference? =
      references := by
    unfold partsOf
    cases primaryKey <;>
      simp [List.filterMap_cons, List.filterMap_map, Function.comp_def, Part.reference?]
  -- a primary key of no columns is not written, and none is read
  have hkeys : (partsOf columns primaryKey references).filterMap Part.key? =
      if primaryKey = [] then [] else [primaryKey] := by
    unfold partsOf
    cases primaryKey <;> simp [List.filterMap_map, Function.comp_def, Part.key?]
  unfold table?
  dsimp only
  rw [hcolumns, hreferences, hkeys]
  cases primaryKey <;> rfl

theorem statement?_table {name : String} {parts : List Part} (hne : parts ≠ [])
    (h : ∀ p ∈ parts, p.Spelled IsColumnType) :
    statement? (tableTokens name parts) = table? name parts := by
  have hparts : parts? 0 [] (commaed (parts.map Part.tokens) ++ [.sign ')']) =
      some (parts.map Part.tokens) := by
    refine parts?_commaed (by simpa using hne) fun ts hts => ?_
    obtain ⟨p, hp, rfl⟩ := List.mem_map.mp hts
    exact (h p hp).depth
  show (do
    let items ← parts? 0 [] (commaed (parts.map Part.tokens) ++ [Token.sign ')'])
    table? name (← items.mapM part?)) = _
  rw [hparts, Option.bind_eq_bind, Option.bind_some, mapM_part? h]
  rfl

theorem statement?_foreignKey (child : String) (r : Reference) :
    statement? (foreignKeyTokens child r) = some (.addForeignKey child r) := by
  have hreference : reference? r.tokens = some r := rfl
  show (do
    let r ← reference? r.tokens
    guard (some (constraintName child r.column) = some (constraintName child r.column))
    return Statement.addForeignKey child r) = _
  rw [hreference, Option.bind_eq_bind, Option.bind_some, guard, if_pos rfl]
  rfl

/-- Behind the name of a table the comment says that it has no columns. -/
theorem comment?_noColumns {name : String} (h : IsName name) :
    comment? (" " ++ name ++ ": no columns declared") = some (.noColumns name) := by
  have hfront : Line.after? " " (" " ++ name ++ ": no columns declared").toList =
      some (name.toList ++ ": no columns declared".toList) := by
    rw [String.toList_append, String.toList_append, List.append_assoc]
    exact Line.after?_append " " _
  have hstop : Stops Line.isNameChar ": no columns declared".toList :=
    Stops.cons_iff (c := ':').mpr (by decide +kernel)
  have hname := Line.name?_append h hstop
  unfold comment?
  rw [hfront, Option.bind_eq_bind, Option.bind_some, hname]
  rfl

/-- Behind the name of a child the comment goes on with the column and the parent. -/
theorem comment?_noParentKey {child column parent : String} (hchild : IsName child)
    (hcolumn : IsName column) (hparent : IsName parent) :
    comment? (" " ++ child ++ "." ++ column ++ ": " ++ parent
      ++ " has no primary key, constraint skipped") = some (.noParentKey child column parent) := by
  have hstop : ∀ c cs, Line.isNameChar c = false → Stops Line.isNameChar (c :: cs) :=
    fun c cs hc => Stops.cons_iff.mpr hc
  obtain ⟨tail, htail⟩ : ∃ tail, tail = " has no primary key, constraint skipped".toList := ⟨_, rfl⟩
  have hlast : Stops Line.isNameChar tail := by
    rw [htail]
    exact hstop ' ' _ (by decide)
  -- the text as names, each followed by what ends it
  have htext : (" " ++ child ++ "." ++ column ++ ": " ++ parent
      ++ " has no primary key, constraint skipped").toList =
        " ".toList ++ (child.toList ++ (".".toList ++ (column.toList ++ (": ".toList
          ++ (parent.toList ++ tail))))) := by
    simp [htail]
  have hdot : Stops Line.isNameChar (".".toList ++ (column.toList ++ (": ".toList
      ++ (parent.toList ++ tail)))) := hstop '.' _ (by decide +kernel)
  have hcolon : Stops Line.isNameChar (": ".toList ++ (parent.toList ++ tail)) :=
    hstop ':' _ (by decide +kernel)
  have hchild := Line.name?_append hchild hdot
  have hcolumn := Line.name?_append hcolumn hcolon
  have hparent := Line.name?_append hparent hlast
  -- a dot is not a colon, so it is not the other kind of comment
  have hother : ".".toList ++ (column.toList ++ (": ".toList ++ (parent.toList ++ tail))) ≠
      ": no columns declared".toList := by
    intro he
    exact absurd (List.cons.inj he).1 (by decide)
  unfold comment?
  dsimp only [Option.bind_eq_bind]
  rw [htext, Line.after?_append, Option.bind_some, hchild, Option.bind_some]
  dsimp only
  rw [if_neg hother, Line.after?_append, Option.bind_some, hcolumn, Option.bind_some]
  dsimp only
  rw [Line.after?_append, Option.bind_some, hparent, Option.bind_some, guard, if_pos htail]
  rfl

theorem statements?_semicolon {ts : List Token} (h : Inner ts) (begun rest : List Token) :
    statements? begun (ts ++ .sign ';' :: rest) =
      (do return (← statement? (begun ++ ts)) :: (← statements? [] rest)) := by
  induction ts generalizing begun with
  | nil => rw [List.append_nil]; rfl
  | cons t ts ih =>
    obtain ⟨ht, hts⟩ := List.forall_mem_cons.mp h
    have hnext : statements? begun (t :: (ts ++ .sign ';' :: rest)) =
        statements? (begun ++ [t]) (ts ++ .sign ';' :: rest) := by
      rw [statements?.eq_4]
      · exact fun he => ht.1 he
      · exact fun text he => ht.2 text he
    rw [List.cons_append, hnext, ih hts, List.append_assoc, List.singleton_append]

theorem inner_tableTokens {name : String} {parts : List Part}
    (h : ∀ p ∈ parts, p.Spelled IsColumnType) :
    Inner (tableTokens name parts) := by
  have hhead : Inner [.word "CREATE", .word "TABLE", .word name, .sign '('] := by
    simp [Inner]
  have hlist : Inner (commaed (parts.map Part.tokens)) := by
    intro t ht
    rcases mem_commaed ht with rfl | ⟨ts, hts, ht⟩
    · simp
    · obtain ⟨p, hp, rfl⟩ := List.mem_map.mp hts
      exact inner_of_depth (h p hp).depth t ht
  have hclose : Inner [.sign ')'] := by simp [Inner]
  exact (hhead.append hlist).append hclose

theorem inner_foreignKeyTokens (child : String) (r : Reference) :
    Inner (foreignKeyTokens child r) := by
  simp [Inner, foreignKeyTokens, Reference.tokens]

/-- **A statement is read back, and then the rest.** -/
theorem statements?_tokens {stmt : Statement} (h : stmt.Spelled IsColumnType) (rest : List Token) :
    statements? [] (stmt.tokens ++ rest) = (do return stmt :: (← statements? [] rest)) := by
  cases stmt with
  | createTable name columns primaryKey references =>
    -- no semicolon stands within the tokens, so the first one is the statement's end
    obtain ⟨_, hcolumns, hparts⟩ := h
    rw [Statement.tokens, List.append_assoc, List.singleton_append,
      statements?_semicolon (inner_tableTokens hparts), List.nil_append,
      statement?_table (partsOf_ne_nil hcolumns primaryKey references) hparts, table?_partsOf]
    rfl
  | noColumns name =>
    show (do return (← comment? (" " ++ name ++ ": no columns declared")) ::
      (← statements? [] rest)) = _
    rw [comment?_noColumns h]
    rfl
  | addForeignKey child r =>
    rw [Statement.tokens, List.append_assoc, List.singleton_append,
      statements?_semicolon (inner_foreignKeyTokens child r), List.nil_append,
      statement?_foreignKey]
    rfl
  | noParentKey child column parent =>
    show (do return (← comment? (" " ++ child ++ "." ++ column ++ ": " ++ parent
      ++ " has no primary key, constraint skipped")) :: (← statements? [] rest)) = _
    rw [comment?_noParentKey h.1 h.2.1 h.2.2]
    rfl

theorem statements?_flatMap {stmts : List Statement}
    (h : ∀ stmt ∈ stmts, stmt.Spelled IsColumnType) :
    statements? [] (stmts.flatMap Statement.tokens) = some stmts := by
  induction stmts with
  | nil => rfl
  | cons stmt rest ih =>
    obtain ⟨hstmt, hrest⟩ := List.forall_mem_cons.mp h
    rw [List.flatMap_cons, statements?_tokens hstmt, ih hrest]
    rfl

/-! ## Scripts -/

theorem Lexes.join {α : Type} {text : α → String} {tokens : α → List Token} {items : List α}
    (h : ∀ x ∈ items, Lexes true (text x) (tokens x)) :
    Lexes true (String.join (items.map text)) (items.flatMap tokens) := by
  induction items with
  | nil => exact Lexes.empty true
  | cons x rest ih =>
    obtain ⟨hx, hrest⟩ := List.forall_mem_cons.mp h
    rw [List.map_cons, String.join_cons, List.flatMap_cons]
    exact hx.append (ih hrest) (Or.inl rfl)

/--
**A script is read back as its statements.**

The names in it must be names, and the types types; a table that is created must have columns.
-/
theorem read?_render {s : Script} (h : ∀ stmt ∈ s.statements, stmt.Spelled IsColumnType) :
    read? s.render = some s.statements := by
  have hfeed : Lexes true "\n" [] := by decide +kernel
  have hmem : ∀ stmt, stmt ∈ s.tables ∨ stmt ∈ s.foreignKeys ∨ stmt ∈ s.joinTables →
      Lexes true stmt.render stmt.tokens := fun stmt hstmt =>
    (h stmt (by simpa [Script.statements] using hstmt)).lexes
  -- blank lines between statements are nothing to the lexer
  have htables : Lexes true (String.join (s.tables.map (·.render ++ "\n")))
      (s.tables.flatMap Statement.tokens) := by
    refine Lexes.join fun stmt hstmt => ?_
    have hline := (hmem stmt (Or.inl hstmt)).append hfeed (Or.inl rfl)
    rwa [List.append_nil] at hline
  have hkeys : Lexes true (String.join (s.foreignKeys.map Statement.render))
      (s.foreignKeys.flatMap Statement.tokens) :=
    Lexes.join fun stmt hstmt => hmem stmt (Or.inr (Or.inl hstmt))
  have hjoins : Lexes true (String.join (s.joinTables.map ("\n" ++ ·.render)))
      (s.joinTables.flatMap Statement.tokens) :=
    Lexes.join fun stmt hstmt => hfeed.append (hmem stmt (Or.inr (Or.inr hstmt))) (Or.inl rfl)
  have hall := (htables.append hkeys (Or.inl rfl)).append hjoins (Or.inl rfl)
  unfold read?
  rw [Script.render, hall.tokens?_eq, ← List.flatMap_append, ← List.flatMap_append]
  exact statements?_flatMap h

end Crowfoot.Sql
