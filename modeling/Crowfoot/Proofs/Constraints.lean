import Crowfoot.Proofs.ScriptLines

/-!
# When constraints have different names

The name of a constraint is put together from its child and its column with an underscore between
them, and there may be underscores in both. So it does not say where the child ends. Two foreign
keys have one name exactly when the child of one goes on behind the other, with an underscore and a
word, and the column of the other begins with that word and an underscore.
-/

namespace Crowfoot

open Sql

namespace Sql

variable {child child' column column' : String}

theorem added?_eq_some_iff {stmt : Statement} :
    stmt.added? = some (child, column) ↔ ∃ r, stmt = .addForeignKey child r ∧ r.column = column := by
  cases stmt with
  | addForeignKey other r => simp [Statement.added?]
  | createTable _ _ _ _ => simp [Statement.added?]
  | noColumns _ => simp [Statement.added?]
  | noParentKey _ _ _ => simp [Statement.added?]

theorem foreignKey?_of_added? {stmt : Statement} {x : String × String} (h : stmt.added? = some x) :
    stmt.foreignKey? = some x := by
  obtain ⟨r, rfl, hcolumn⟩ := added?_eq_some_iff.mp h
  rw [Statement.foreignKey?, hcolumn]

theorem added?_eq_none {stmt : Statement} (h : stmt.foreignKey? = none) : stmt.added? = none := by
  cases hadded : stmt.added? with
  | none => rfl
  | some x =>
    rw [foreignKey?_of_added? hadded] at h
    exact absurd h nofun

theorem constraintName_append (child word column : String) :
    constraintName child (word ++ "_" ++ column) = constraintName (child ++ "_" ++ word) column := by
  simp [constraintName, String.append_assoc]

/-- The underscores at which two lists are equal are at one place, or one list goes on there. -/
theorem split_underscore {as bs cs ds : List Char} (h : as ++ '_' :: cs = bs ++ '_' :: ds) :
    as = bs ∧ cs = ds ∨ (∃ word, bs = as ++ '_' :: word ∧ cs = word ++ '_' :: ds) ∨
      ∃ word, as = bs ++ '_' :: word ∧ ds = word ++ '_' :: cs := by
  -- `more` is what one of the two has before its underscore and the other does not
  rcases List.append_eq_append_iff.mp h with ⟨more, hbs, hmore⟩ | ⟨more, has, hmore⟩
  · cases more with
    | nil =>
      rw [List.append_nil] at hbs
      exact Or.inl ⟨hbs.symm, (List.cons.inj hmore).2⟩
    | cons c word =>
      obtain ⟨rfl, hcs⟩ := List.cons.inj hmore
      exact Or.inr (Or.inl ⟨word, hbs, hcs⟩)
  · cases more with
    | nil =>
      rw [List.append_nil] at has
      exact Or.inl ⟨has, (List.cons.inj hmore).2.symm⟩
    | cons c word =>
      obtain ⟨rfl, hds⟩ := List.cons.inj hmore
      exact Or.inr (Or.inr ⟨word, has, hds⟩)

/-- **Two names are one if one child goes on behind the other and the columns make up for it.** -/
theorem constraintName_eq_iff : constraintName child column = constraintName child' column' ↔
    child = child' ∧ column = column' ∨
    (∃ word, child' = child ++ "_" ++ word ∧ column = word ++ "_" ++ column') ∨
    ∃ word, child = child' ++ "_" ++ word ∧ column' = word ++ "_" ++ column := by
  constructor
  · intro h
    have hchars : child.toList ++ '_' :: column.toList = child'.toList ++ '_' :: column'.toList := by
      have hname := congrArg String.toList h
      simpa [constraintName] using hname
    have hword : ∀ (a b : String) (word : List Char), a.toList = b.toList ++ '_' :: word →
        a = b ++ "_" ++ String.ofList word := by
      intro a b word ha
      rw [← String.toList_inj, ha]
      simp
    -- the mark between the parts stands at the same place, or further on in one of the two
    rcases split_underscore hchars with ⟨hsame, hcolumn⟩ | ⟨word, hmore, hcolumn⟩ | ⟨word, hmore, hcolumn⟩
    · exact Or.inl ⟨String.toList_inj.mp hsame, String.toList_inj.mp hcolumn⟩
    · refine Or.inr (Or.inl ⟨String.ofList word, hword _ _ _ hmore, ?_⟩)
      rw [← String.toList_inj, hcolumn]
      simp
    · refine Or.inr (Or.inr ⟨String.ofList word, hword _ _ _ hmore, ?_⟩)
      rw [← String.toList_inj, hcolumn]
      simp
  · intro h
    rcases h with ⟨rfl, rfl⟩ | ⟨word, rfl, rfl⟩ | ⟨word, rfl, rfl⟩
    · rfl
    · exact constraintName_append child word column'
    · exact (constraintName_append child' word column).symm

end Sql

namespace Plan

variable {p : Plan} {mode : Undeclared} {text child column : String}

/-- The foreign keys that are added are those to parents with a key. -/
theorem Regular.mem_added_iff (hp : p.Regular) :
    (child, column) ∈ p.script.statements.filterMap Statement.added? ↔
      ∃ k ∈ p.schema.keysOf child, p.schema.HasKey k.parent ∧ k.column = column := by
  rw [List.mem_filterMap]
  constructor
  · intro h
    obtain ⟨stmt, hstmt, hadded⟩ := h
    obtain ⟨r, rfl, rfl⟩ := added?_eq_some_iff.mp hadded
    have hk := hp.addForeignKey_mem_iff.mp hstmt
    exact ⟨_, hk, (hp.linked.parentKey_isSome_iff hk).mp rfl, rfl⟩
  · intro h
    obtain ⟨k, hk, hkeyed, rfl⟩ := h
    obtain ⟨key, hkey⟩ := Option.isSome_iff_exists.mp ((hp.linked.parentKey_isSome_iff hk).mpr hkeyed)
    refine ⟨.addForeignKey child ⟨k.column, k.parent, key⟩, hp.addForeignKey_mem_iff.mpr ?_, rfl⟩
    rw [← hkey]
    exact hk

theorem Regular.nodup_added (hp : p.Regular) :
    (p.script.statements.filterMap Statement.added?).Nodup := by
  have htables : p.script.tables.filterMap Statement.added? = [] := by
    rw [List.filterMap_eq_nil_iff]
    intro stmt hstmt
    obtain ⟨_, _, e, _, rfl⟩ := mem_script_tables.mp hstmt
    exact added?_eq_none entityTable_foreignKey?
  have hjoins : p.script.joinTables.filterMap Statement.added? = [] := by
    rw [List.filterMap_eq_nil_iff]
    intro stmt hstmt
    obtain ⟨t, _, rfl⟩ := mem_script_joinTables.mp hstmt
    rfl
  unfold Script.statements
  rw [List.filterMap_append, List.filterMap_append, htables, hjoins, List.append_nil, List.nil_append]
  -- what is added is what is noted, so the pairs of the statements are different
  refine List.pairwise_filterMap.mpr ?_
  refine (List.pairwise_map.mp hp.nodup_foreignKeys).imp fun hne x hx y hy he => hne ?_
  rw [foreignKey?_of_added? hx, foreignKey?_of_added? hy, he]

/-- **Names are different unless a child goes on behind another and the columns make up for it.** -/
theorem Regular.nodup_constraintNames_iff (hp : p.Regular) :
    (constraintNames p.script.statements).Nodup ↔
      ∀ child, ∀ k ∈ p.schema.keysOf child, p.schema.HasKey k.parent →
        ∀ word, ∀ k' ∈ p.schema.keysOf (child ++ "_" ++ word), p.schema.HasKey k'.parent →
          k.column ≠ word ++ "_" ++ k'.column := by
  unfold constraintNames
  rw [List.nodup_map_iff_inj_on hp.nodup_added]
  constructor
  · intro hinj child k hk hkeyed word k' hk' hkeyed' hcolumn
    have hname := constraintName_append child word k'.column
    rw [← hcolumn] at hname
    have hsame := hinj (child, k.column) (hp.mem_added_iff.mpr ⟨k, hk, hkeyed, rfl⟩)
      (child ++ "_" ++ word, k'.column) (hp.mem_added_iff.mpr ⟨k', hk', hkeyed', rfl⟩) hname
    -- a child does not go on behind itself
    have hlength := congrArg String.length (Prod.mk.inj hsame).1
    rw [String.length_append, String.length_append] at hlength
    have : "_".length = 1 := rfl
    omega
  · intro hapart x hx y hy hname
    obtain ⟨child, column⟩ := x
    obtain ⟨child', column'⟩ := y
    obtain ⟨k, hk, hkeyed, rfl⟩ := hp.mem_added_iff.mp hx
    obtain ⟨k', hk', hkeyed', rfl⟩ := hp.mem_added_iff.mp hy
    rcases constraintName_eq_iff.mp hname with ⟨rfl, hcolumn⟩ | ⟨word, rfl, hcolumn⟩ | ⟨word, rfl, hcolumn⟩
    · exact Prod.ext rfl hcolumn
    · exact absurd hcolumn (hapart child k hk hkeyed word k' hk' hkeyed')
    · exact absurd hcolumn (hapart child' k' hk' hkeyed' word k hk hkeyed)

/--
**When constraints have different names.**

The lines of a script add the constraints of its foreign keys, whatever else there is in it. The
script of a text gives each constraint a name of its own unless there are two children, one
called like the other with an underscore and a word behind, and foreign keys of them to parents
with keys, so that the column of the other is called like its own with the word and an underscore
before. No two keys of one child and no children without underscores have such names.
-/
theorem constraintNames_nodup (h : ofText mode text = .ok p) :
    addedNames p.sql = constraintNames p.script.statements ∧
    ((constraintNames p.script.statements).Nodup ↔
      ∀ child, ∀ k ∈ p.schema.keysOf child, p.schema.HasKey k.parent →
        ∀ word, ∀ k' ∈ p.schema.keysOf (child ++ "_" ++ word), p.schema.HasKey k'.parent →
          k.column ≠ word ++ "_" ++ k'.column) ∧
    ((∀ name ∈ p.schema.entities, '_' ∉ name.toList) →
      (constraintNames p.script.statements).Nodup) := by
  have hp := regular_ofText h
  refine ⟨addedNames_sql h, hp.nodup_constraintNames_iff, fun hplain => ?_⟩
  rw [hp.nodup_constraintNames_iff]
  intro child k _ _ word k' hk' _ _
  have hchild := (hp.linked.ends _ k' hk').1
  exact hplain _ hchild (by simp)

/-- Two children, one called like the other with a word behind, that refer to one parent. -/
def oneParent : String :=
  "entity C \x7b\nid : number <<generated>>\n\x7d\nC ||--o\x7b A_B\nC ||--o\x7b A\n"

theorem constraintNames_nodup_oneParent :
    ∃ p, ofText .synthesize oneParent = .ok p ∧
      addedNames p.sql = ["fk_A_C_id", "fk_A_B_C_id"] ∧
      constraintNames p.script.statements = ["fk_A_C_id", "fk_A_B_C_id"] ∧
      ⟨"C_id", "C", some "id"⟩ ∈ p.schema.keysOf "A" ∧
      ∀ word, ∀ k' ∈ p.schema.keysOf ("A" ++ "_" ++ word), p.schema.HasKey k'.parent →
        "C_id" ≠ word ++ "_" ++ k'.column := by
  have heval : (ofText .synthesize oneParent).toOption.any (fun p =>
      decide (constraintNames p.script.statements = ["fk_A_C_id", "fk_A_B_C_id"] ∧
        ⟨"C_id", "C", some "id"⟩ ∈ p.schema.keysOf "A" ∧ p.schema.HasKey "C")) = true := by
    decide +kernel
  obtain ⟨p, hp, htest⟩ := exists_ok_of_any heval
  obtain ⟨hnames, hk, hkeyed⟩ := of_decide_eq_true htest
  obtain ⟨hlines, hiff, _⟩ := constraintNames_nodup hp
  have hnodup : (constraintNames p.script.statements).Nodup := by
    rw [hnames]
    decide
  exact ⟨p, hp, hlines.trans hnames, hnames, hk, hiff.mp hnodup "A" _ hk hkeyed⟩

/-- The word behind the one child is the beginning of the other's parent. -/
def sharedWord : String :=
  "entity C \x7b\n  id : number <<generated>>\n\x7d\nentity B_C \x7b\n  id : number <<generated>>\n\x7d\n"
    ++ "C ||--o\x7b A_B\nB_C ||--o\x7b A\n"

theorem constraintNames_not_nodup_sharedWord :
    ∃ p, ofText .synthesize sharedWord = .ok p ∧
      addedNames p.sql = ["fk_A_B_C_id", "fk_A_B_C_id"] ∧
      constraintNames p.script.statements = ["fk_A_B_C_id", "fk_A_B_C_id"] ∧
      ¬ (constraintNames p.script.statements).Nodup := by
  have heval : (ofText .synthesize sharedWord).toOption.any (fun p =>
      decide (constraintNames p.script.statements = ["fk_A_B_C_id", "fk_A_B_C_id"])) = true := by
    decide +kernel
  obtain ⟨p, hp, htest⟩ := exists_ok_of_any heval
  have hnames := of_decide_eq_true htest
  refine ⟨p, hp, (addedNames_sql hp).trans hnames, hnames, ?_⟩
  rw [hnames]
  decide

end Plan

end Crowfoot
