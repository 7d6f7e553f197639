import Crowfoot.Proofs.Document
import Crowfoot.Proofs.Names
import Crowfoot.Xmi.Export

/-!
# Identifiers are apart

The identifier of a type spells its word: a letter or a number stands for itself, and any other
character for its code between underscores. An underscore is not a letter, so it is seen in the
identifier where such a code begins, and it is no digit, so it is seen where the code ends. This is
why different words have different identifiers.

The identifiers of types and classes begin differently. That of an attribute has a full stop in it,
which no name has.
-/

namespace Crowfoot

open Text

/-! ## Hexadecimal digits -/

namespace Text

/-- The digits of hexadecimal numerals. -/
def hexDigits : List Char := "0123456789abcdef".toList

/-- The digit of a number. -/
theorem digitChar_mem_hexDigits {n : Nat} (h : n < 16) : n.digitChar ∈ hexDigits := by
  have hall : ∀ n < 16, n.digitChar ∈ hexDigits := by decide
  exact hall n h

theorem digitChar_inj {m n : Nat} (hm : m < 16) (hn : n < 16) (h : m.digitChar = n.digitChar) :
    m = n := by
  have hall : ∀ m < 16, ∀ n < 16, m.digitChar = n.digitChar → m = n := by decide
  exact hall m hm n hn h

theorem mem_hexDigits (n : Nat) : ∀ c ∈ Nat.toDigits 16 n, c ∈ hexDigits := by
  induction n using Nat.strongRecOn with
  | ind n ih =>
    intro c hc
    rw [Nat.toDigits_eq_if (by decide)] at hc
    split at hc
    · rename_i hlt
      obtain rfl := List.mem_singleton.mp hc
      exact digitChar_mem_hexDigits hlt
    · rename_i hle
      rcases List.mem_append.mp hc with hc | hc
      · exact ih (n / 16) (by omega) c hc
      · obtain rfl := List.mem_singleton.mp hc
        exact digitChar_mem_hexDigits (Nat.mod_lt n (by decide))

theorem forall_toDigits {p : Char → Bool} (h : hexDigits.all p = true) (n : Nat) :
    ∀ c ∈ Nat.toDigits 16 n, p c = true :=
  fun c hc => List.all_eq_true.mp h c (mem_hexDigits n c hc)

/-- **Different numbers have different hexadecimal digits.** -/
theorem toDigits_inj (m : Nat) : ∀ {n : Nat}, Nat.toDigits 16 m = Nat.toDigits 16 n → m = n := by
  induction m using Nat.strongRecOn with
  | ind m ih =>
    intro n h
    rw [Nat.toDigits_eq_if (by decide), Nat.toDigits_eq_if (n := n) (by decide)] at h
    split at h <;> split at h
    · rename_i hm hn
      exact digitChar_inj hm hn (List.singleton_inj.mp h)
    · -- one digit is not as many as two
      have hlen := congrArg List.length h
      have hpos := Nat.length_toDigits_pos (b := 16) (n := n / 16)
      rw [List.length_append, List.length_singleton, List.length_singleton] at hlen
      omega
    · have hlen := congrArg List.length h
      have hpos := Nat.length_toDigits_pos (b := 16) (n := m / 16)
      rw [List.length_append, List.length_singleton, List.length_singleton] at hlen
      omega
    · rename_i hm hn
      obtain ⟨hdiv, hmod⟩ := List.append_inj' h rfl
      have hdiv := ih (m / 16) (by omega) hdiv
      have hmod := digitChar_inj (Nat.mod_lt m (by decide)) (Nat.mod_lt n (by decide))
        (List.singleton_inj.mp hmod)
      omega

theorem toList_hexadecimal (n : Nat) : (hexadecimal n).toList = Nat.toDigits 16 n :=
  String.toList_ofList

end Text

namespace Xmi

variable {x y : List Char}

/-! ## Types -/

/-- A character stands for itself, or for its code between underscores. -/
theorem toList_identifierChar (c : Char) :
    (identifierChar c).toList
      = if isAlphanumeric c then [c] else '_' :: (Nat.toDigits 16 c.toNat ++ ['_']) := by
  unfold identifierChar
  split
  · exact String.toList_singleton c
  · simp [toList_hexadecimal]

/-- The code of a character is over at the next underscore. -/
theorem code_append_inj {m n : Nat}
    (h : Nat.toDigits 16 m ++ '_' :: x = Nat.toDigits 16 n ++ '_' :: y) : m = n ∧ x = y := by
  have hdigits := forall_toDigits (p := fun c => c ≠ '_') (by decide)
  obtain ⟨hcode, hrest⟩ := Stops.append_inj (hdigits m) (hdigits n)
    (Stops.cons_iff.mpr (by decide)) (Stops.cons_iff.mpr (by decide)) h
  exact ⟨toDigits_inj m hcode, (List.cons.inj hrest).2⟩

theorem identifierChar_append_inj {c d : Char}
    (h : (identifierChar c).toList ++ x = (identifierChar d).toList ++ y) : c = d ∧ x = y := by
  have hunderscore : isAlphanumeric '_' = false := by decide
  rw [toList_identifierChar, toList_identifierChar] at h
  split at h <;> split at h
  · exact List.cons.inj h
  · rename_i hc _
    rw [(List.cons.inj h).1] at hc
    exact absurd hc (ne_true_of_eq_false hunderscore)
  · rename_i _ hd
    rw [← (List.cons.inj h).1] at hd
    exact absurd hd (ne_true_of_eq_false hunderscore)
  · simp only [List.cons_append, List.append_assoc, List.nil_append] at h
    obtain ⟨hcode, hrest⟩ := code_append_inj (List.cons.inj h).2
    exact ⟨Char.toNat_inj.mp hcode, hrest⟩

theorem identifierChar_ne_nil (c : Char) : [] ≠ (identifierChar c).toList ++ x := by
  rw [toList_identifierChar]
  split <;> exact nofun

theorem toList_typeId (t : DataType) :
    (typeId t).toList
      = "type_".toList ++ t.token.toList.flatMap fun c => (identifierChar c).toList := by
  rw [typeId, String.toList_append, String.toList_join, List.flatMap_map]

/-- **Types with different words have different identifiers.** -/
theorem token_eq_of_typeId {t t' : DataType} (h : typeId t = typeId t') : t.token = t'.token := by
  have hlist := congrArg String.toList h
  rw [toList_typeId, toList_typeId] at hlist
  have hwords := List.append_cancel_left hlist
  rw [← List.append_nil (List.flatMap _ t.token.toList),
    ← List.append_nil (List.flatMap _ t'.token.toList)] at hwords
  obtain ⟨htoken, _⟩ := flatMap_append_inj (fun _ _ _ _ _ _ => identifierChar_append_inj)
    (fun c _ _ => identifierChar_ne_nil c) (fun c _ _ => identifierChar_ne_nil c) hwords
  exact String.toList_inj.mp htoken

theorem typeId_inj {t t' : DataType} (ht : t.Spelled) (ht' : t'.Spelled)
    (h : typeId t = typeId t') : t = t' := ht.token_inj ht' (token_eq_of_typeId h)

/-! ## Names -/

theorem isNameChar_of_identifierChar {c d : Char} (h : d ∈ (identifierChar c).toList) :
    Line.isNameChar d = true := by
  rw [toList_identifierChar] at h
  split at h
  · rename_i hc
    obtain rfl := List.mem_singleton.mp h
    exact (Bool.or_eq_true _ _).mpr (Or.inl hc)
  · rcases List.mem_cons.mp h with rfl | h
    · decide
    · rcases List.mem_append.mp h with h | h
      · exact forall_toDigits (by decide) c.toNat d h
      · obtain rfl := List.mem_singleton.mp h
        decide

/-- The identifier of a type is a name. -/
theorem isName_typeId (t : DataType) : IsName (typeId t) := by
  rw [typeId]
  refine IsName.append (by decide) fun c hc => ?_
  rw [String.toList_join, List.flatMap_map] at hc
  obtain ⟨d, _, hd⟩ := List.mem_flatMap.mp hc
  exact isNameChar_of_identifierChar hd

theorem toList_classId (e : Entity) : (classId e).toList = "class_".toList ++ e.name.toList :=
  String.toList_append

theorem isName_classId {e : Entity} (h : IsName e.name) : IsName (classId e) :=
  IsName.append (by decide) h.2

theorem classId_inj {e e' : Entity} (h : classId e = classId e') : e.name = e'.name := by
  have hlist := congrArg String.toList h
  rw [toList_classId, toList_classId] at hlist
  exact String.toList_inj.mp (List.append_cancel_left hlist)

theorem typeId_ne_classId (t : DataType) (e : Entity) : typeId t ≠ classId e := by
  intro h
  have hlist := congrArg String.toList h
  rw [toList_typeId, toList_classId] at hlist
  exact absurd (List.cons.inj hlist).1 (by decide)

/-- The word `model` begins like no identifier of a type or a class. -/
theorem typeId_ne_model (t : DataType) : typeId t ≠ "model" := by
  intro h
  have hlist := congrArg String.toList h
  rw [toList_typeId] at hlist
  exact absurd (List.cons.inj hlist).1 (by decide)

theorem model_ne_classId (e : Entity) : "model" ≠ classId e := by
  intro h
  have hlist := congrArg String.toList h
  rw [toList_classId] at hlist
  exact absurd (List.cons.inj hlist).1 (by decide)

theorem toList_attributeId (e : Entity) (a : Attribute) :
    (attributeId e a).toList = e.name.toList ++ '.' :: a.name.toList := by
  simp [attributeId]

/-- The full stop in the identifier of an attribute is in no name. -/
theorem ne_attributeId {name : String} (h : IsName name) (e : Entity) (a : Attribute) :
    name ≠ attributeId e a := by
  intro he
  have hstop : '.' ∈ name.toList := by
    rw [he, toList_attributeId]
    exact List.mem_append_right _ (List.mem_cons_self ..)
  exact absurd (h.2 _ hstop) (by decide)

theorem attributeId_inj {e e' : Entity} {a a' : Attribute} (he : IsName e.name)
    (he' : IsName e'.name) (h : attributeId e a = attributeId e' a') :
    e.name = e'.name ∧ a.name = a'.name := by
  have hlist := congrArg String.toList h
  rw [toList_attributeId, toList_attributeId] at hlist
  obtain ⟨hentity, hattribute⟩ := Stops.append_inj he.2 he'.2 (Stops.cons_iff.mpr (by decide))
    (Stops.cons_iff.mpr (by decide)) hlist
  exact ⟨String.toList_inj.mp hentity, String.toList_inj.mp (List.cons.inj hattribute).2⟩

end Xmi

end Crowfoot
