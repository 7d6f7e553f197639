import Crowfoot.Plan

/-!
# What the numbers of the lines decide

Relationships, join tables and errors carry the number of their line, so that a message can name it.
Nothing else depends on the numbers: without them a diagram has the schema that it has with them,
the numbers taken away. The order of the entities and all that is made from a plan are the same.
-/

namespace Crowfoot

/-! ## Taking the numbers away -/

/-- The relationship without the number of its line. -/
def Relationship.unnumbered (r : Relationship) : Relationship := { r with line := 0 }

/-- The join table without the number of its line. -/
def JoinTable.unnumbered (t : JoinTable) : JoinTable := { t with line := 0 }

/-- The error without the number of the line. -/
def ResolutionError.unnumbered : ResolutionError → ResolutionError
  | undeclaredEntity entity relationship _ => .undeclaredEntity entity relationship 0
  | joinTableClash table _ => .joinTableClash table 0

/-- The diagram without the numbers of its lines. -/
def Diagram.unnumbered (d : Diagram) : Diagram :=
  { d with relationships := d.relationships.map Relationship.unnumbered }

/-- The schema without the numbers of the lines. -/
def Schema.unnumbered (s : Schema) : Schema :=
  { s with joinTables := s.joinTables.map JoinTable.unnumbered }

/-- The plan without the numbers of the lines. -/
def Plan.unnumbered (p : Plan) : Plan := ⟨p.schema.unnumbered, p.order⟩

/-! ## From a diagram to a schema -/

namespace Schema

theorem referenceColumn_unnumbered (s : Schema) (child parent : String) :
    s.unnumbered.referenceColumn child parent = s.referenceColumn child parent := rfl

theorem hasKeyColumn_unnumbered (s : Schema) (entity column : String) :
    s.unnumbered.hasKeyColumn entity column = s.hasKeyColumn entity column := rfl

/-- What has become of a schema, without the numbers of the lines. -/
def unnumberedResult (x : Except ResolutionError Schema) : Except ResolutionError Schema :=
  (x.map unnumbered).mapError ResolutionError.unnumbered

/-- A step without numbers after a step without numbers. -/
theorem unnumberedResult_bind {x : Except ResolutionError Schema}
    {f g : Schema → Except ResolutionError Schema}
    (h : ∀ s, g s.unnumbered = unnumberedResult (f s)) :
    (unnumberedResult x >>= g) = unnumberedResult (x >>= f) := by
  cases x with
  | error e => rfl
  | ok s => exact h s

theorem joinTable?_unnumbered (s : Schema) (name : String) :
    s.unnumbered.joinTable? name = (s.joinTable? name).map JoinTable.unnumbered :=
  List.find?_map

theorem clash?_unnumbered (s : Schema) : s.unnumbered.clash? = s.clash?.map JoinTable.unnumbered :=
  List.find?_map

theorem withEntity_unnumbered (mode : Undeclared) (r : Relationship) (s : Schema) (name : String) :
    s.unnumbered.withEntity mode r.unnumbered name =
      unnumberedResult (s.withEntity mode r name) := by
  unfold withEntity
  by_cases h : name ∈ s.entities
  · have h' : name ∈ s.unnumbered.entities := h
    rw [if_pos h, if_pos h']
    rfl
  · have h' : name ∉ s.unnumbered.entities := h
    rw [if_neg h, if_neg h']
    cases mode <;> rfl

theorem addReference_unnumbered (s : Schema) (child parent : String) :
    s.unnumbered.addReference child parent = (s.addReference child parent).unnumbered := by
  unfold addReference
  cases h : s.hasKeyColumn child (s.referenceColumn child parent) with
  | true => simp only [referenceColumn_unnumbered, hasKeyColumn_unnumbered, h, if_true]
  | false =>
    simp only [referenceColumn_unnumbered, hasKeyColumn_unnumbered, h]
    rfl

theorem addPairing_unnumbered (s : Schema) (left right : String) (line : Nat) :
    s.unnumbered.addPairing left right 0 = unnumberedResult (s.addPairing left right line) := by
  unfold addPairing
  rw [joinTable?_unnumbered]
  cases s.joinTable? (joinName left right) with
  | none =>
    have htables : s.joinTables.map JoinTable.unnumbered ++ [JoinTable.ofPair left right 0] =
        (s.joinTables ++ [JoinTable.ofPair left right line]).map JoinTable.unnumbered := by
      rw [List.map_append]
      rfl
    exact congrArg (fun tables => Except.ok { s with joinTables := tables }) htables
  | some t =>
    -- the sides of a join table have no line numbers
    have hends : t.unnumbered.left = t.left ∧ t.unnumbered.right = t.right := ⟨rfl, rfl⟩
    simp only [Option.map_some, hends.1, hends.2]
    by_cases h : t.left.entity = left ∧ t.right.entity = right
    · rw [if_pos h, if_pos h]
      rfl
    · rw [if_neg h, if_neg h]
      rfl

theorem withEnds_unnumbered (mode : Undeclared) (s : Schema) (r : Relationship) :
    s.unnumbered.withEnds mode r.unnumbered = unnumberedResult (s.withEnds mode r) := by
  unfold withEnds
  rw [show r.unnumbered.left = r.left from rfl, withEntity_unnumbered]
  exact unnumberedResult_bind fun s => withEntity_unnumbered mode r s r.right

theorem addLink_unnumbered (s : Schema) (r : Relationship) :
    s.unnumbered.addLink r.unnumbered = unnumberedResult (s.addLink r) := by
  have hlink : r.unnumbered.link = r.link := rfl
  unfold addLink
  rw [hlink]
  cases r.link with
  | reference child parent => exact congrArg Except.ok (addReference_unnumbered s child parent)
  | pairing left right => exact addPairing_unnumbered s left right r.line

theorem relate_unnumbered (mode : Undeclared) (s : Schema) (r : Relationship) :
    s.unnumbered.relate mode r.unnumbered = unnumberedResult (s.relate mode r) := by
  unfold relate
  rw [withEnds_unnumbered]
  exact unnumberedResult_bind fun s => addLink_unnumbered s r

theorem relateAll_unnumbered (mode : Undeclared) (s : Schema) (rs : List Relationship) :
    s.unnumbered.relateAll mode (rs.map Relationship.unnumbered) =
      unnumberedResult (s.relateAll mode rs) := by
  induction rs generalizing s with
  | nil => rfl
  | cons r rest ih =>
    rw [List.map_cons, relateAll, relate_unnumbered]
    exact unnumberedResult_bind ih

/-- **A diagram without numbers has the schema of the diagram, without numbers.** -/
theorem resolve_unnumbered (mode : Undeclared) (d : Diagram) :
    resolve mode d.unnumbered = unnumberedResult (resolve mode d) := by
  have hall := relateAll_unnumbered mode (ofEntities d) d.relationships
  unfold resolve
  rw [show ofEntities d.unnumbered = (ofEntities d).unnumbered from rfl,
    show d.unnumbered.relationships = d.relationships.map Relationship.unnumbered from rfl, hall]
  refine unnumberedResult_bind fun s => ?_
  rw [clash?_unnumbered]
  cases s.clash? with
  | none => rfl
  | some t => rfl

end Schema

/-! ## From a schema to the artifacts -/

/-- The walk goes from frame to frame, and a frame is made of foreign keys. -/
theorem Walk.run_unnumbered (s : Schema) (w : Walk) : run s.unnumbered w = run s w := by
  -- one case for each mark that the parent of a foreign key can bear
  fun_induction run s w with
  | case1 => rw [run]
  | case2 _ _ _ _ _ ih => rw [run, ih]
  | case3 marks name parent rest path done back h ih =>
    rw [run]
    split
    · exact ih
    · simp_all
    · simp_all
  | case4 marks name parent rest path done back h ih =>
    rw [run]
    split
    · simp_all
    · exact ih
    · simp_all
  | case5 marks name parent rest path done back h ih =>
    rw [run]
    split
    · simp_all
    · simp_all
    · exact ih

theorem DependencyOrder.ofSchema_unnumbered (s : Schema) :
    ofSchema s.unnumbered = ofSchema s := by
  have hvisit : Walk.visit s.unnumbered = Walk.visit s := by
    funext w root
    unfold Walk.visit
    rw [Walk.run_unnumbered]
    rfl
  unfold ofSchema
  rw [hvisit]
  rfl

theorem Sql.ofSchema_unnumbered (s : Schema) (o : DependencyOrder) :
    Script.ofSchema s.unnumbered o = Script.ofSchema s o := by
  -- a table is made for a pairing and not for a line
  have hjoin : s.unnumbered.joinTables.map (joinTable s.unnumbered) =
      s.joinTables.map (joinTable s) := List.map_map
  unfold Script.ofSchema
  rw [hjoin]
  rfl

section

variable {γ : Type} [Generator γ]

theorem Generation.steps_unnumbered (source : ValueSource γ) (s : Schema) (o : DependencyOrder)
    (rows : Nat) : steps source s.unnumbered o rows = steps source s o rows := by
  have hjoin : (s.unnumbered.joinTables.map fun t p => Fill.join (γ := γ) s.unnumbered rows p t) =
      s.joinTables.map fun t p => Fill.join s rows p t := List.map_map
  unfold steps
  rw [hjoin]
  rfl

end

namespace Plan

variable (p : Plan)

theorem ofSchema_unnumbered (s : Schema) : ofSchema s.unnumbered = (ofSchema s).unnumbered := by
  unfold ofSchema
  rw [DependencyOrder.ofSchema_unnumbered]
  rfl

theorem sql_unnumbered : p.unnumbered.sql = p.sql :=
  congrArg Sql.Script.render (Sql.ofSchema_unnumbered p.schema p.order)

theorem xmi_unnumbered (name : String) : p.unnumbered.xmi name = p.xmi name := rfl

variable {γ : Type} [Generator γ]

theorem generate_unnumbered (source : ValueSource γ) (rows : Nat) :
    p.unnumbered.generate source rows = p.generate source rows :=
  congrArg (Generation.run .start) (Generation.steps_unnumbered source p.schema p.order rows)

theorem dataset_unnumbered (source : ValueSource γ) (rows : Nat) :
    p.unnumbered.dataset source rows = p.dataset source rows := by
  unfold dataset
  rw [generate_unnumbered]

theorem csvFiles_unnumbered (source : ValueSource γ) (rows : Nat) :
    p.unnumbered.csvFiles source rows = p.csvFiles source rows := by
  unfold csvFiles
  rw [dataset_unnumbered]

/-- What has become of a plan, without the numbers of the lines. -/
def unnumberedResult (x : Except ResolutionError Plan) : Except ResolutionError Plan :=
  (x.map unnumbered).mapError ResolutionError.unnumbered

/-- **A diagram without numbers has the plan of the diagram, without numbers.** -/
theorem ofDiagram_unnumbered (mode : Undeclared) (d : Diagram) :
    ofDiagram mode d.unnumbered = unnumberedResult (ofDiagram mode d) := by
  unfold ofDiagram
  rw [Schema.resolve_unnumbered]
  cases Schema.resolve mode d with
  | error e => rfl
  | ok s => exact congrArg Except.ok (ofSchema_unnumbered s)

end Plan

end Crowfoot
