import Crowfoot.CommandLine.FileTree
import Crowfoot.Proofs.Results

/-!
# Where paths lead, and what a change of the tree changes

A path is followed through the tree, and a name on it may lead nowhere. If it can be followed, the
names alone say where it leads: to its `place`. A file that is written is new or changed at its
place and nowhere else. A directory is only ever made where nothing was.
-/

namespace Crowfoot.CommandLine

namespace Path

/-- The name leads from a directory to a place in it. -/
def IsOrdinary (name : String) : Prop := name ≠ "" ∧ name ≠ "." ∧ name ≠ ".."

instance (name : String) : Decidable (IsOrdinary name) := inferInstanceAs (Decidable (_ ∧ _))

/-- The place that the names of the path lead to. -/
def place (p : Path) : Location := p.names.foldl Location.enter (if p.absolute then ["/"] else [])

end Path

namespace Location

variable {l : Location} {name : String} {names : List String}

theorem enter_ordinary (h : Path.IsOrdinary name) : l.enter name = name :: l := by
  obtain ⟨hempty, hdot, hup⟩ := h
  unfold enter
  rw [if_neg (by simp [hempty, hdot]), if_neg hup]

theorem enter_empty : l.enter "" = l := rfl

theorem foldl_enter_withoutSlash :
    (Path.withoutSlash names).foldl enter l = names.foldl enter l := by
  unfold Path.withoutSlash
  split
  · rename_i h
    obtain ⟨front, rfl⟩ := List.getLast?_eq_some_iff.mp h
    rw [List.dropLast_concat, List.foldl_append, List.foldl_cons, List.foldl_nil, enter_empty]
  · rfl

theorem foldl_enter_withoutSlashes :
    (FileTree.withoutSlashes names).foldl enter l = names.foldl enter l := by
  unfold FileTree.withoutSlashes
  rw [← List.foldr_reverse, List.reverse_reverse, ← List.foldr_reverse]
  induction names.reverse with
  | nil => rfl
  | cons name rest ih =>
    by_cases h : name = ""
    · rw [List.dropWhile_cons, if_pos (decide_eq_true h), ih, List.foldr_cons, h, enter_empty]
    · rw [List.dropWhile_cons_of_neg (by simpa using h)]

end Location

/-- **A file in a directory has its place there.** -/
theorem Path.place_join {p : Path} {name : String} (h : IsOrdinary name) :
    (p.join name).place = name :: p.place := by
  unfold place join
  dsimp only
  rw [List.foldl_append, Location.foldl_enter_withoutSlash, List.foldl_cons, List.foldl_nil,
    Location.enter_ordinary h]

namespace FileTree

variable {t t' t'' : FileTree} {l l' : Location} {p : Path} {names : List String}
  {contents : ByteArray} {paths : List Path}

/-! ## Following a path -/

theorem step_eq {name : String} (h : t.step l name = .ok l') : l' = l.enter name := by
  unfold step at h
  obtain ⟨_, _, h⟩ := bind_eq_ok.mp h
  split at h
  · exact absurd h nofun
  · exact (Except.ok.inj h).symm

theorem follow_eq (h : t.follow l names = .ok l') : l' = names.foldl Location.enter l := by
  induction names generalizing l with
  | nil => exact (Except.ok.inj h).symm
  | cons name rest ih =>
    cases rest with
    | nil => exact step_eq h
    | cons next rest =>
      rw [follow] at h
      · rw [List.foldl_cons]
        split at h
        · -- an ordinary name on the way is entered without a look at what it is
          rename_i hordinary
          simp only [Path.isProper, Bool.and_eq_true, decide_eq_true_eq] at hordinary
          obtain ⟨⟨hempty, hdot⟩, hup⟩ := hordinary
          rw [Location.enter_ordinary ⟨hempty, hdot, hup⟩]
          exact ih h
        · obtain ⟨around, haround, h⟩ := bind_eq_ok.mp h
          rw [← step_eq haround]
          exact ih h
      · exact nofun

/-- **A path leads to its place or nowhere.** -/
theorem locate_eq (h : t.locate p = .ok l) : l = p.place := by
  unfold locate at h
  split at h
  · exact absurd h nofun
  · exact follow_eq h

/-! ## More directories -/

theorem requireDirectory_eq_ok : t.requireDirectory l = .ok () ↔ t.node? l = some .directory := by
  cases l with
  | nil => exact ⟨fun _ => rfl, fun _ => rfl⟩
  | cons name around =>
    unfold requireDirectory
    split
    · rename_i h
      exact ⟨fun _ => h, fun _ => rfl⟩
    · rename_i h
      exact ⟨fun hok => absurd hok nofun, fun hdir => absurd (h.symm.trans hdir) nofun⟩
    · rename_i h
      refine ⟨fun hok => ?_, fun hdir => absurd (h.symm.trans hdir) nofun⟩
      obtain ⟨_, _, herror⟩ := bind_eq_ok.mp hok
      exact absurd herror nofun

/-- All directories of the one tree are directories of the other. -/
def Keeps (t t' : FileTree) : Prop :=
  ∀ l, t.node? l = some .directory → t'.node? l = some .directory

theorem step_mono (hkeeps : t.Keeps t') {name : String} (h : t.step l name = .ok l') :
    t'.step l name = .ok l' := by
  unfold step at h ⊢
  obtain ⟨_, hdir, hname⟩ := bind_eq_ok.mp h
  exact bind_eq_ok.mpr
    ⟨(), requireDirectory_eq_ok.mpr (hkeeps l (requireDirectory_eq_ok.mp hdir)), hname⟩

theorem follow_mono (hkeeps : t.Keeps t') (h : t.follow l names = .ok l') :
    t'.follow l names = .ok l' := by
  induction names generalizing l with
  | nil => exact h
  | cons name rest ih =>
    cases rest with
    | nil => exact step_mono hkeeps h
    | cons next rest =>
      rw [follow] at h ⊢
      · split
        · rename_i hordinary
          rw [if_pos hordinary] at h
          exact ih h
        · rename_i hother
          rw [if_neg hother] at h
          -- where a directory is gone to or left, it is still there
          obtain ⟨around, haround, h⟩ := bind_eq_ok.mp h
          exact bind_eq_ok.mpr ⟨around, step_mono hkeeps haround, ih h⟩
      · exact nofun
      · exact nofun

/-- A path that can be followed can be followed with more directories around. -/
theorem locate_mono (hkeeps : t.Keeps t') (h : t.locate p = .ok l) : t'.locate p = .ok l := by
  unfold locate at h ⊢
  split at h
  · exact absurd h nofun
  · rename_i hshort
    rw [if_neg hshort]
    exact follow_mono hkeeps h

/-! ## Changes -/

/-- A node that is put where no directory stands is there, and the others are as they were. -/
theorem node?_insert {node : Node} (h : t.node? l ≠ some .directory) :
    FileTree.node? ⟨t.nodes.insert l node⟩ l' = if l' = l then some node else t.node? l' := by
  unfold node? at h ⊢
  split at h
  · exact absurd rfl h
  · rename_i hbelow
    dsimp only
    rw [Std.ExtTreeMap.getElem?_insert]
    simp only [Std.LawfulEqCmp.compare_eq_iff_eq]
    by_cases he : l' = l
    · rw [if_pos he.symm, if_pos he, if_neg (he ▸ hbelow)]
    · rw [if_neg (Ne.symm he), if_neg he]

/-- A file that is written is at its place, and nothing else has changed. -/
theorem write_ok (h : t.write p contents = .ok t') :
    t.locate p = .ok p.place ∧ t.node? p.place ≠ some .directory ∧
      ∀ l, t'.node? l = if l = p.place then some (.file contents) else t.node? l := by
  unfold write at h
  obtain ⟨l₀, hl, h⟩ := bind_eq_ok.mp h
  obtain rfl := locate_eq hl
  split at h
  · exact absurd h nofun
  · rename_i hnot
    refine ⟨hl, hnot, fun l => ?_⟩
    rw [← Except.ok.inj h, node?_insert hnot]

theorem write_keeps (h : t.write p contents = .ok t') : t.Keeps t' := by
  obtain ⟨_, hnot, hnode⟩ := write_ok h
  intro l hdir
  have hne : l ≠ p.place := fun he => hnot (he ▸ hdir)
  rw [hnode, if_neg hne]
  exact hdir

/-- The files were put into the directory, and nothing else has changed. -/
structure Put (out : Path) (files : List (String × String)) (t t' : FileTree) : Prop where
  keeps : t.Keeps t'
  reached : ∀ f ∈ files, t'.locate (out.join f.1) = .ok (f.1 :: out.place)
  held : ∀ f ∈ files, t'.node? (f.1 :: out.place) = some (.file f.2.toUTF8)
  others : ∀ l, (∀ f ∈ files, l ≠ f.1 :: out.place) → t'.node? l = t.node? l

theorem put_nil (out : Path) (t : FileTree) : Put out [] t t :=
  ⟨fun _ h => h, fun f hf => absurd hf (by simp), fun f hf => absurd hf (by simp), fun _ _ => rfl⟩

/-- **One more file, of a name that no later one has.** -/
theorem put_cons {out : Path} {f : String × String} {rest : List (String × String)}
    (hordinary : Path.IsOrdinary f.1) (hnew : f.1 ∉ rest.map Prod.fst)
    (hwrite : t.write (out.join f.1) f.2.toUTF8 = .ok t') (h : Put out rest t' t'') :
    Put out (f :: rest) t t'' := by
  obtain ⟨hlocate, _, hnode⟩ := write_ok hwrite
  have hkeeps := write_keeps hwrite
  rw [Path.place_join hordinary] at hlocate hnode
  constructor
  case keeps => exact fun l hdir => h.keeps l (hkeeps l hdir)
  case reached =>
    refine List.forall_mem_cons.mpr ⟨?_, h.reached⟩
    exact locate_mono h.keeps (locate_mono hkeeps hlocate)
  case held =>
    refine List.forall_mem_cons.mpr ⟨?_, h.held⟩
    -- no later file has this name, so it is left as it was written
    rw [h.others, hnode, if_pos rfl]
    intro other hother he
    exact hnew ((List.cons.inj he).1 ▸ List.mem_map_of_mem hother)
  case others =>
    intro l hl
    obtain ⟨hhead, hl⟩ := List.forall_mem_cons.mp hl
    rw [h.others l hl, hnode, if_neg hhead]

/-- A file that was put can be read. -/
theorem Put.read {out : Path} {files : List (String × String)} (h : Put out files t t')
    {f : String × String} (hf : f ∈ files) :
    t'.read (out.join f.1) = .ok f.2.toUTF8 := by
  refine bind_eq_ok.mpr ⟨_, h.reached f hf, ?_⟩
  rw [h.held f hf]
  rfl

/-- Directories were made for some of the paths, where nothing was, and nothing else has changed. -/
def Grown (paths : List Path) (t t' : FileTree) : Prop :=
  ∀ l, t'.node? l = t.node? l ∨
    t.node? l = none ∧ t'.node? l = some .directory ∧ ∃ p ∈ paths, l = p.place

theorem Grown.refl (paths : List Path) (t : FileTree) : Grown paths t t := fun _ => Or.inl rfl

theorem Grown.trans (h : Grown paths t t') (h' : Grown paths t' t'') : Grown paths t t'' := by
  intro l
  rcases h' l with hsame' | ⟨hnone', hmade'⟩
  · rw [hsame']
    exact h l
  · rcases h l with hsame | ⟨_, hmade, _⟩
    · rw [← hsame]
      exact Or.inr ⟨hnone', hmade'⟩
    · exact absurd (hmade.symm.trans hnone') nofun

theorem makeDirectory_ok (h : t.makeDirectory p = .ok t') (hp : p ∈ paths) :
    Grown paths t t' := by
  unfold makeDirectory at h
  split at h
  · exact absurd h nofun
  · obtain ⟨l₀, hl, h⟩ := bind_eq_ok.mp h
    have hplace : l₀ = p.place :=
      (locate_eq hl).trans Location.foldl_enter_withoutSlashes
    split at h
    · exact absurd h nofun
    · rename_i hnone
      intro l
      rw [← Except.ok.inj h, node?_insert (by rw [hnone]; exact nofun)]
      -- the one node that is new is the directory itself
      by_cases he : l = l₀
      · rw [if_pos he]
        exact Or.inr ⟨he ▸ hnone, rfl, p, hp, he.trans hplace⟩
      · rw [if_neg he]
        exact Or.inl rfl

end FileTree

end Crowfoot.CommandLine
