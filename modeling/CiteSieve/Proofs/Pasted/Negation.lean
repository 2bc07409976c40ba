import CiteSieve.Proofs.Pasted.Group
import CiteSieve.Proofs.Pasted.Operators
import CiteSieve.Proofs.Text.Lowered
import CiteSieve.Proofs.Text.Squeezed

/-!
# The word before an excluded group

`NOT` may be written in any case (`exists_of_upperChars_not`). It is recognised by the blank behind
it: with blanks it is taken off (`afterNot?_of_blanks`), and without one it is not there
(`afterNot?_of_not_blank`).
-/

namespace CiteSieve.Pasted

/-! ## Its letters -/

/-- No letter beyond ASCII has one of these for its capital. -/
theorem upperShifts_avoid : ∀ s ∈ Text.upperShifts, ∀ m ∈ "NOT".toList,
    (m.toNat : Int) < s.first + s.delta ∨ s.last + s.delta < (m.toNat : Int) := by
  decide +kernel

theorem upperExpansions_ne : ∀ e ∈ Text.upperExpansions, ∀ m ∈ "NOT".toList, e.2 ≠ [m.toNat] := by
  decide +kernel

theorem eq_or_of_upperCodes {n : Nat} {m : Char} (hm : m ∈ "NOT".toList)
    (h : Text.upperCodes n = [m.toNat]) : n = m.toNat ∨ n = m.toNat + 0x20 := by
  unfold Text.upperCodes at h
  split at h
  · split at h
    · rename_i hsmall
      simp only [Bool.and_eq_true, decide_eq_true_eq] at hsmall
      have := List.singleton_inj.mp h
      omega
    · exact .inl (List.singleton_inj.mp h)
  · split at h
    · rename_i ns hns
      exact absurd h (upperExpansions_ne _ (Assoc.mem_of_lookup hns) m hm)
    · rename_i hascii _ _
      rcases Text.shiftCode_cases Text.upperShifts n with hsame | ⟨s, hs, i, hmember, hmoved⟩
      · exact .inl (hsame.symm.trans (List.singleton_inj.mp h))
      · have havoid := upperShifts_avoid s hs m hm
        have hle := hmember.le
        have hge : s.first ≤ n := hmember.eq ▸ Nat.le_add_right ..
        have hpos : 0 < m.toNat := (by decide : ∀ m ∈ "NOT".toList, 0 < m.toNat) m hm
        rw [hmoved] at h
        have := List.singleton_inj.mp h
        omega

theorem eq_toNat_of_ofNat {k : Nat} {m : Char} (hm : m ∈ "NOT".toList) (h : Char.ofNat k = m) :
    k = m.toNat := by
  subst h
  by_cases hk : k.isValidChar
  · exact (Text.toNat_ofNat hk).symm
  · rw [Char.ofNat, dif_neg hk] at hm
    exact absurd hm (by decide)

/-- **The letters of `NOT`** are its own or the small ones. -/
theorem forall₂_of_upperChars {cs ms : List Char} (hms : ∀ m ∈ ms, m ∈ "NOT".toList)
    (h : Text.upperChars cs = ms) :
    List.Forall₂ (fun c m => c.toNat = m.toNat ∨ c.toNat = m.toNat + 0x20) cs ms := by
  induction cs generalizing ms with
  | nil =>
    subst h
    exact .nil
  | cons c cs ih =>
    have hcons : Text.upperChars (c :: cs) =
        (Text.upperCodes c.toNat).map Char.ofNat ++ Text.upperChars cs := List.flatMap_cons
    have hlen : (Text.upperCodes c.toNat).length = 1 := length_upperCodes fun k hk => by
      have hmem := hms (Char.ofNat k) (by simp [← h, hcons, List.mem_map_of_mem hk])
      exact (by decide : ∀ m ∈ "NOT".toList, m ∈ "ANDORT".toList) _ hmem
    obtain ⟨k, hk⟩ := List.length_eq_one_iff.mp hlen
    rw [hcons, hk] at h
    subst h
    obtain ⟨hm, hms⟩ := List.forall_mem_cons.mp hms
    rw [eq_toNat_of_ofNat hm rfl] at hk
    exact .cons (eq_or_of_upperCodes hm hk) (ih hms rfl)

section Letters

variable {letters : List Char} (h : Text.upperChars letters = "NOT".toList)

include h

/-- **It has three letters**, each in either case. -/
theorem exists_of_upperChars_not :
    ∃ n o t, letters = [n, o, t] ∧ n ∈ "Nn".toList ∧ o ∈ "Oo".toList ∧ t ∈ "Tt".toList := by
  have hmem : ∀ {c m : Char}, c.toNat = m.toNat ∨ c.toNat = m.toNat + 0x20 →
      c ∈ [m, Char.ofNat (m.toNat + 0x20)] := by
    rintro c m (hc | hc)
    · rw [← Char.ofNat_toNat c, hc, Char.ofNat_toNat]
      exact List.mem_cons_self
    · rw [← Char.ofNat_toNat c, hc]
      exact List.mem_cons_of_mem _ List.mem_cons_self
  have hletters : List.Forall₂ _ letters ['N', 'O', 'T'] := forall₂_of_upperChars (by decide) h
  obtain _ | ⟨hn, _ | ⟨ho, _ | ⟨ht, hnil⟩⟩⟩ := hletters
  obtain rfl := List.forall₂_nil_right_iff.mp hnil
  exact ⟨_, _, _, rfl, hmem hn, hmem ho, hmem ht⟩

theorem mem_of_upperChars_not : ∀ c ∈ letters, c ∈ "NnOoTt".toList := by
  obtain ⟨n, o, t, rfl, hn, ho, ht⟩ := exists_of_upperChars_not h
  rintro c hc
  rcases List.mem_cons.mp hc with rfl | hc
  · exact List.mem_append_left "OoTt".toList hn
  rcases List.mem_cons.mp hc with rfl | hc
  · exact List.mem_append_right "Nn".toList (List.mem_append_left "Tt".toList ho)
  · obtain rfl := List.mem_singleton.mp hc
    exact List.mem_append_right "NnOo".toList ht

theorem isPlain_of_upperChars_not : ∀ c ∈ letters, isPlain c = true ∧ c ≠ ' ' := fun c hc =>
  (by decide : ∀ c ∈ "NnOoTt".toList, isPlain c = true ∧ c ≠ ' ') c (mem_of_upperChars_not h c hc)

theorem isBlank_of_upperChars_not : ∀ c ∈ letters, Text.isBlank c = false := fun c hc =>
  (by decide : ∀ c ∈ "NnOoTt".toList, Text.isBlank c = false) c (mem_of_upperChars_not h c hc)

theorem isTermQuote_of_upperChars_not : ∀ c ∈ letters, isTermQuote c = false := fun c hc =>
  (by decide : ∀ c ∈ "NnOoTt".toList, isTermQuote c = false) c (mem_of_upperChars_not h c hc)

theorem isPacked_not : Text.IsPacked letters := by
  refine .of_not_isBlank ?_ (isBlank_of_upperChars_not h)
  rintro rfl
  exact absurd h (by decide)

/-! ## What follows it -/

theorem afterNot?_letters (c : Char) (cs : List Char) : afterNot? (letters ++ c :: cs) =
    if Text.isBlank c then some (cs.dropWhile Text.isBlank) else none := by
  obtain ⟨n, o, t, rfl, hn, ho, ht⟩ := exists_of_upperChars_not h
  have hkeys : (Fold.unicode.key n.toNat == 'n'.toNat && Fold.unicode.key o.toNat == 'o'.toNat &&
      Fold.unicode.key t.toNat == 't'.toNat) = true := by
    have hn := (by decide : ∀ c ∈ "Nn".toList, (Fold.unicode.key c.toNat == 'n'.toNat) = true) n hn
    have ho := (by decide : ∀ c ∈ "Oo".toList, (Fold.unicode.key c.toNat == 'o'.toNat) = true) o ho
    have ht := (by decide : ∀ c ∈ "Tt".toList, (Fold.unicode.key c.toNat == 't'.toNat) = true) t ht
    rw [hn, ho, ht]
    rfl
  simp only [List.cons_append, List.nil_append, afterNot?, hkeys, Bool.true_and]

/-- **With blanks behind it** it is taken off. -/
theorem afterNot?_of_blanks {gap rest : List Char} (hne : gap ≠ [])
    (hgap : ∀ c ∈ gap, Text.isBlank c = true) (hrest : ∀ c ∈ rest.head?, Text.isBlank c = false) :
    afterNot? (letters ++ (gap ++ rest)) = some rest := by
  obtain ⟨b, gap, rfl⟩ := List.exists_cons_of_ne_nil hne
  obtain ⟨hb, hgap⟩ := List.forall_mem_cons.mp hgap
  rw [List.cons_append, afterNot?_letters h, if_pos hb, List.dropWhile_append_of_pos hgap,
    Text.dropWhile_isBlank_eq_self hrest]

/-- **Without a blank behind it** it is none. -/
theorem afterNot?_of_not_blank {c : Char} (hc : Text.isBlank c = false) (cs : List Char) :
    afterNot? (letters ++ c :: cs) = none := by
  rw [afterNot?_letters h, hc, if_neg Bool.false_ne_true]

end Letters

end CiteSieve.Pasted
