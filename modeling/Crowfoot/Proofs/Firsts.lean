import Mathlib.Data.List.Induction
import Mathlib.Data.List.Nodup

/-!
# First occurrences

Where several relationships ask for one thing, the first of them has it. Of a list, `firsts` keeps
the items whose image under a function is new. A list that is read from left to right grows at its
end, so the lemmas are about one more item at the end.

Where all images are different, an item is the only one with its image.
-/

namespace Crowfoot

variable {α β : Type} [DecidableEq β]

/-- The items of a list whose image is not that of an earlier item. -/
def firsts (f : α → β) (l : List α) : List α := l.eraseDupsBy fun a b => f a = f b

theorem eraseDupsBy_loop_cons (r : α → α → Bool) (b : α) (l kept : List α) :
    List.eraseDupsBy.loop r (b :: l) kept =
      List.eraseDupsBy.loop r l (if kept.any (r b) then kept else b :: kept) := by
  rw [List.eraseDupsBy.loop]
  cases kept.any (r b) <;> rfl

theorem eraseDupsBy_loop_concat (r : α → α → Bool) (a : α) (l kept : List α) :
    List.eraseDupsBy.loop r (l ++ [a]) kept =
      if (List.eraseDupsBy.loop r l kept).any (r a) then List.eraseDupsBy.loop r l kept
      else List.eraseDupsBy.loop r l kept ++ [a] := by
  induction l generalizing kept with
  | nil =>
    rw [List.nil_append, eraseDupsBy_loop_cons]
    simp only [List.eraseDupsBy.loop, List.any_reverse]
    split
    · rfl
    · exact List.reverse_cons
  | cons b l ih =>
    rw [List.cons_append, eraseDupsBy_loop_cons, eraseDupsBy_loop_cons]
    exact ih _

variable {f : α → β} {l : List α} {a : α}

theorem firsts_concat_of_mem (h : f a ∈ (firsts f l).map f) : firsts f (l ++ [a]) = firsts f l := by
  obtain ⟨b, hb, he⟩ := List.mem_map.mp h
  have hany : (firsts f l).any (fun b => f a = f b) = true :=
    List.any_eq_true.mpr ⟨b, hb, decide_eq_true he.symm⟩
  exact (eraseDupsBy_loop_concat _ a l []).trans (if_pos hany)

theorem firsts_concat_of_not_mem (h : f a ∉ (firsts f l).map f) :
    firsts f (l ++ [a]) = firsts f l ++ [a] := by
  refine (eraseDupsBy_loop_concat _ a l []).trans (if_neg fun hany => h ?_)
  obtain ⟨b, hb, he⟩ := List.any_eq_true.mp hany
  exact List.mem_map.mpr ⟨b, hb, (of_decide_eq_true he).symm⟩

theorem firsts_sublist (f : α → β) (l : List α) : (firsts f l).Sublist l := by
  induction l using List.reverseRecOn with
  | nil => exact .slnil
  | append_singleton l a ih =>
    by_cases h : f a ∈ (firsts f l).map f
    · rw [firsts_concat_of_mem h]
      exact ih.trans (List.sublist_append_left l [a])
    · rw [firsts_concat_of_not_mem h]
      exact ih.append_right [a]

/-- No image is lost. -/
theorem mem_map_firsts {x : β} : x ∈ (firsts f l).map f ↔ x ∈ l.map f := by
  induction l using List.reverseRecOn with
  | nil => exact Iff.rfl
  | append_singleton l a ih =>
    rw [List.map_append, List.mem_append, ← ih, List.map_singleton, List.mem_singleton]
    by_cases h : f a ∈ (firsts f l).map f
    · rw [firsts_concat_of_mem h]
      exact ⟨Or.inl, fun hx => hx.elim id fun he => he ▸ h⟩
    · rw [firsts_concat_of_not_mem h, List.map_append, List.mem_append, List.map_singleton,
        List.mem_singleton]

theorem nodup_map_firsts (f : α → β) (l : List α) : ((firsts f l).map f).Nodup := by
  induction l using List.reverseRecOn with
  | nil => exact List.nodup_nil
  | append_singleton l a ih =>
    by_cases h : f a ∈ (firsts f l).map f
    · rw [firsts_concat_of_mem h]
      exact ih
    · rw [firsts_concat_of_not_mem h, List.map_append, List.map_singleton]
      exact List.nodup_append.mpr ⟨ih, by simp, fun x hx y hy he =>
        h (List.mem_singleton.mp hy ▸ he ▸ hx)⟩

theorem mem_firsts_concat {b : α} (h : a ∈ firsts f l) : a ∈ firsts f (l ++ [b]) := by
  by_cases hb : f b ∈ (firsts f l).map f
  · rw [firsts_concat_of_mem hb]
    exact h
  · rw [firsts_concat_of_not_mem hb]
    exact List.mem_append_left _ h

/-- An item counts if it stands somewhere in the list with no item of its image before it. -/
theorem mem_firsts_iff :
    a ∈ firsts f l ↔ ∃ before after, l = before ++ a :: after ∧ f a ∉ before.map f := by
  induction l using List.reverseRecOn with
  | nil => exact ⟨fun h => absurd h (by simp [firsts]), fun ⟨_, _, h, _⟩ => absurd h (by simp)⟩
  | append_singleton l b ih =>
    constructor
    · intro h
      by_cases hb : f b ∈ (firsts f l).map f
      · rw [firsts_concat_of_mem hb] at h
        obtain ⟨before, after, rfl, hnew⟩ := ih.mp h
        exact ⟨before, after ++ [b], by simp, hnew⟩
      · rw [firsts_concat_of_not_mem hb] at h
        rcases List.mem_append.mp h with h | h
        · obtain ⟨before, after, rfl, hnew⟩ := ih.mp h
          exact ⟨before, after ++ [b], by simp, hnew⟩
        · obtain rfl := List.mem_singleton.mp h
          exact ⟨l, [], rfl, fun hm => hb (mem_map_firsts.mpr hm)⟩
    · intro h
      obtain ⟨before, after, hsplit, hnew⟩ := h
      rcases List.eq_nil_or_concat after with rfl | ⟨after, c, rfl⟩
      · -- the item is the last one
        obtain ⟨rfl, hlast⟩ := List.append_inj' hsplit rfl
        obtain rfl := List.singleton_inj.mp hlast
        rw [firsts_concat_of_not_mem fun hm => hnew (mem_map_firsts.mp hm)]
        exact List.mem_append_right _ (List.mem_singleton_self b)
      · rw [List.concat_eq_append, ← List.cons_append, ← List.append_assoc] at hsplit
        obtain ⟨hl, _⟩ := List.append_inj' hsplit rfl
        exact mem_firsts_concat (ih.mpr ⟨before, after, hl, hnew⟩)

/-! ## Items with different images -/

/-- **An item whose image no other item has is found alone.** -/
theorem filter_eq_singleton (hnd : (l.map f).Nodup) (ha : a ∈ l) : l.filter (f · = f a) = [a] := by
  induction l with
  | nil => exact absurd ha (by simp)
  | cons b rest ih =>
    obtain ⟨hb, hrest⟩ := List.nodup_cons.mp hnd
    by_cases he : f b = f a
    · -- the head is the item, so nothing behind it has its image
      have hnone : rest.filter (f · = f a) = [] := by
        rw [List.filter_eq_nil_iff]
        intro x hx hsame
        exact hb (he ▸ of_decide_eq_true hsame ▸ List.mem_map_of_mem hx)
      rw [List.filter_cons_of_pos (by simpa using he), hnone]
      rcases List.mem_cons.mp ha with rfl | ha
      · rfl
      · exact absurd (List.mem_map_of_mem ha) (he ▸ hb)
    · rw [List.filter_cons_of_neg (by simpa using he)]
      rcases List.mem_cons.mp ha with rfl | ha
      · exact absurd rfl he
      · exact ih hrest ha

/-- **So is one whose image no other item that has an image has.** -/
theorem filter_eq_singleton_of_filterMap {f : α → Option β} {b : β} (hnd : (l.filterMap f).Nodup)
    (ha : a ∈ l) (hb : f a = some b) : l.filter (f · = some b) = [a] := by
  induction l with
  | nil => exact absurd ha (by simp)
  | cons c rest ih =>
    cases hc : f c with
    | none =>
      rw [List.filterMap_cons_none hc] at hnd
      rw [List.filter_cons_of_neg (by simp [hc])]
      rcases List.mem_cons.mp ha with rfl | ha
      · exact absurd (hc.symm.trans hb) nofun
      · exact ih hnd ha
    | some b' =>
      rw [List.filterMap_cons_some hc] at hnd
      obtain ⟨hnew, hrest⟩ := List.nodup_cons.mp hnd
      by_cases he : b' = b
      · -- the head has the image, so nothing behind it has
        have hnone : rest.filter (f · = some b) = [] := by
          rw [List.filter_eq_nil_iff]
          intro x hx hsame
          exact hnew (List.mem_filterMap.mpr ⟨x, hx, he ▸ of_decide_eq_true hsame⟩)
        rw [List.filter_cons_of_pos (by simp [hc, he]), hnone]
        rcases List.mem_cons.mp ha with rfl | ha
        · rfl
        · exact absurd (List.mem_filterMap.mpr ⟨a, ha, he ▸ hb⟩) hnew
      · rw [List.filter_cons_of_neg (by simp [hc, he])]
        rcases List.mem_cons.mp ha with rfl | ha
        · exact absurd (Option.some.inj (hc.symm.trans hb)) he
        · exact ih hrest ha

/-- What is not in the front part of a list has all of that before it. -/
theorem subset_of_append_eq {front back before after : List α}
    (h : front ++ back = before ++ a :: after) (ha : a ∉ front) : front ⊆ before := by
  rcases List.append_eq_append_iff.mp h with ⟨more, rfl, _⟩ | ⟨more, rfl, hmore⟩
  · exact List.subset_append_left front more
  · cases more with
    | nil =>
      rw [List.append_nil]
      exact List.Subset.refl before
    | cons b rest =>
      obtain ⟨rfl, _⟩ := List.cons.inj hmore
      exact absurd (List.mem_append_right before (List.mem_cons_self ..)) ha

end Crowfoot
