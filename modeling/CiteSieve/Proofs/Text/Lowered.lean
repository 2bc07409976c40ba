import CiteSieve.Text.Case

/-!
# Texts in lower case

What a text in lower case is made of stays as it is: no letter of it moves again, whatever stands
around it.

* `lowerCode_lowerCode`: the lower-case form of a code point is its own.
* `lower_lower`: a text in lower case is its own lower-case form.
-/

namespace CiteSieve.Text

/-- The code point of a character made from one. -/
theorem toNat_ofNat {n : Nat} (h : n < 0xd800 ∨ (0xdfff < n ∧ n < 0x110000)) :
    (Char.ofNat n).toNat = n := by
  rw [Char.ofNat, dif_pos h]
  rfl

/-! ## Runs of code points -/

/-- Where the first member of a run is moved to. -/
def Shift.firstImage (s : Shift) : Nat :=
  (s.first + s.delta).toNat

/-- Where the last member of a run is moved to. -/
def Shift.lastImage (s : Shift) : Nat :=
  (s.last + s.delta).toNat

/-- No member of `s` is moved to a member of `t`: the one run ends before the other begins, or
their members alternate. -/
def Shift.avoids (s t : Shift) : Bool :=
  s.lastImage.blt t.first || t.last.blt s.firstImage ||
    (t.step.beq 2 && (s.step.beq 2 || s.first.beq s.last) &&
      ((s.firstImage - t.first) % 2).beq 1)

theorem lowerShifts_avoid : (lowerShifts.all fun s => lowerShifts.all s.avoids) = true := by
  decide +kernel

theorem lowerShifts_not_ascii : ∀ s ∈ lowerShifts, s.lastImage < 0x41 ∨ 0x5a < s.firstImage := by
  decide +kernel

/-- The `i`-th member of a run is `n`. -/
structure Shift.IsMember (s : Shift) (i n : Nat) : Prop where
  eq : n = s.first + i * s.step
  le : n ≤ s.last

/-- What avoids a run is moved to none of its members. -/
theorem Shift.IsMember.not_isMember {s t : Shift} (havoids : s.avoids t = true) {i j n : Nat}
    (hs : s.IsMember i n) : ¬ t.IsMember j (n + s.delta).toNat := by
  intro ht
  obtain ⟨hn, hlast⟩ := hs
  obtain ⟨hm, hlast'⟩ := ht
  unfold Shift.avoids Shift.firstImage Shift.lastImage at havoids
  simp only [Bool.or_eq_true, Bool.and_eq_true, Nat.blt_eq, Nat.beq_eq] at havoids
  rcases havoids with (hbefore | hbehind) | ⟨⟨htwo, hrun⟩, hodd⟩
  · omega
  · have hle : s.first ≤ n := hn ▸ Nat.le_add_right _ _
    omega
  · rw [htwo] at hm
    rcases hrun with hstep | hsingle
    · rw [hstep] at hn
      omega
    · omega

/-- A code point stays, or it is a member of a run and is moved. -/
theorem shiftCode_cases (shifts : List Shift) (n : Nat) :
    shiftCode shifts n = n ∨
      ∃ s ∈ shifts, ∃ i, s.IsMember i n ∧ shiftCode shifts n = (n + s.delta).toNat := by
  unfold shiftCode
  split
  · rename_i s hs
    have hholds := List.find?_some hs
    simp only [Bool.and_eq_true, decide_eq_true_eq, beq_iff_eq] at hholds
    obtain ⟨⟨hfirst, hlast⟩, hstep⟩ := hholds
    refine .inr ⟨s, List.mem_of_find?_eq_some hs, (n - s.first) / s.step, ⟨?_, hlast⟩, rfl⟩
    rw [Nat.div_mul_cancel (Nat.dvd_of_mod_eq_zero hstep), Nat.add_sub_cancel' hfirst]
  · exact .inl rfl

theorem shiftCode_eq_self {shifts : List Shift} {n : Nat}
    (h : ∀ s ∈ shifts, ∀ i, ¬ s.IsMember i n) : shiftCode shifts n = n := by
  rcases shiftCode_cases shifts n with hsame | ⟨s, hs, i, hmember, -⟩
  · exact hsame
  · exact absurd hmember (h s hs i)

/-! ## Single code points -/

theorem lowerCode_of_ascii {n : Nat} (h : n < 0x80) (hn : n < 0x41 ∨ 0x5a < n) :
    lowerCode n = n := by
  rw [lowerCode, if_pos h, if_neg]
  simp only [Bool.and_eq_true, decide_eq_true_eq]
  omega

/-- What a run has moved stays. -/
theorem lowerCode_moved {s : Shift} (hs : s ∈ lowerShifts) {i n : Nat} (hn : s.IsMember i n) :
    lowerCode (n + s.delta).toNat = (n + s.delta).toNat := by
  by_cases hascii : (n + s.delta).toNat < 0x80
  · have hfirst : s.first ≤ n := hn.eq ▸ Nat.le_add_right _ _
    have hletter := lowerShifts_not_ascii s hs
    have hlast := hn.le
    unfold Shift.firstImage Shift.lastImage at hletter
    exact lowerCode_of_ascii hascii (by omega)
  · rw [lowerCode, if_neg hascii]
    refine shiftCode_eq_self fun t ht j => hn.not_isMember ?_
    exact List.all_eq_true.mp (List.all_eq_true.mp lowerShifts_avoid s hs) t ht

/-- **The lower-case form of a code point is its own.** -/
theorem lowerCode_lowerCode (n : Nat) : lowerCode (lowerCode n) = lowerCode n := by
  by_cases hascii : n < 0x80
  · by_cases hletter : n < 0x41 ∨ 0x5a < n
    · rw [lowerCode_of_ascii hascii hletter, lowerCode_of_ascii hascii hletter]
    · have heq : lowerCode n = n + 0x20 := by
        rw [lowerCode, if_pos hascii, if_pos]
        simp only [Bool.and_eq_true, decide_eq_true_eq]
        omega
      rw [heq]
      exact lowerCode_of_ascii (by omega) (by omega)
  · have heq : lowerCode n = shiftCode lowerShifts n := if_neg hascii
    rcases shiftCode_cases lowerShifts n with hsame | ⟨s, hs, i, hmember, hmoved⟩
    · rw [heq, hsame, heq, hsame]
    · rw [heq, hmoved]
      exact lowerCode_moved hs hmember

/-! ## Characters -/

/-- The character is a form of its own, whatever stands around it. -/
structure IsLower (c : Char) : Prop where
  not_sigma : c.toNat ≠ 0x3a3
  not_dotted : c.toNat ≠ 0x130
  lowerCode_eq : lowerCode c.toNat = c.toNat

instance (c : Char) : Decidable (IsLower c) :=
  decidable_of_iff (c.toNat ≠ 0x3a3 ∧ c.toNat ≠ 0x130 ∧ lowerCode c.toNat = c.toNat)
    ⟨fun h => ⟨h.1, h.2.1, h.2.2⟩, fun h => ⟨h.not_sigma, h.not_dotted, h.lowerCode_eq⟩⟩

theorem IsLower.lowerChar_eq {c : Char} (h : IsLower c) (before after : List Char) :
    lowerChar before c after = [c] := by
  unfold lowerChar
  rw [if_neg (by simpa using h.not_sigma), if_neg (by simpa using h.not_dotted), h.lowerCode_eq,
    Char.ofNat_toNat]

/-- What moves is no lower-case form. -/
theorem lowerCode_ne {n m : Nat} (hm : lowerCode m ≠ m) : lowerCode n ≠ m := by
  rintro rfl
  exact hm (lowerCode_lowerCode n)

theorem isLower_ofNat_lowerCode (n : Nat) : IsLower (Char.ofNat (lowerCode n)) := by
  by_cases hvalid : (lowerCode n).isValidChar
  · have htoNat : (Char.ofNat (lowerCode n)).toNat = lowerCode n := by
      rw [Char.ofNat, dif_pos hvalid]
      rfl
    constructor
    · rw [htoNat]
      exact lowerCode_ne (by decide +kernel)
    · rw [htoNat]
      exact lowerCode_ne (by decide +kernel)
    · rw [htoNat, lowerCode_lowerCode]
  · have hzero : Char.ofNat (lowerCode n) = Char.ofNat 0 := by
      rw [Char.ofNat, dif_neg hvalid]
      rfl
    rw [hzero]
    decide +kernel

theorem isLower_of_mem_lowerChar {before after : List Char} {c d : Char}
    (h : d ∈ lowerChar before c after) : IsLower d := by
  unfold lowerChar at h
  split at h
  · have hsigmas : IsLower (Char.ofNat 0x3c2) ∧ IsLower (Char.ofNat 0x3c3) := by decide +kernel
    split at h
    · rw [List.mem_singleton.mp h]
      exact hsigmas.1
    · rw [List.mem_singleton.mp h]
      exact hsigmas.2
  · split at h
    · have hdotted : ∀ e ∈ ['i', Char.ofNat 0x307], IsLower e := by decide +kernel
      exact hdotted d h
    · rw [List.mem_singleton.mp h]
      exact isLower_ofNat_lowerCode c.toNat

/-! ## Whole texts -/

theorem isLower_of_mem_lowerFrom : ∀ {cs before : List Char}, ∀ d ∈ lowerFrom before cs, IsLower d
  | [], _, d, hd => absurd hd List.not_mem_nil
  | c :: cs, before, d, hd => by
    rcases List.mem_append.mp hd with hd | hd
    · exact isLower_of_mem_lowerChar hd
    · exact isLower_of_mem_lowerFrom d hd

theorem lowerFrom_eq_self : ∀ {cs : List Char} (before : List Char), (∀ c ∈ cs, IsLower c) →
    lowerFrom before cs = cs
  | [], _, _ => rfl
  | c :: cs, before, h => by
    obtain ⟨hc, hcs⟩ := List.forall_mem_cons.mp h
    rw [lowerFrom, hc.lowerChar_eq, lowerFrom_eq_self _ hcs, List.singleton_append]

/-- **A text in lower case is its own lower-case form.** -/
theorem lower_lower (s : String) : lower (lower s) = lower s := by
  rw [lower, lower, String.toList_ofList, lowerFrom_eq_self [] isLower_of_mem_lowerFrom]

theorem lowerChar_ne_nil (before : List Char) (c : Char) (after : List Char) :
    lowerChar before c after ≠ [] := by
  unfold lowerChar
  split
  · split
    · exact List.cons_ne_nil _ _
    · exact List.cons_ne_nil _ _
  · split
    · exact List.cons_ne_nil _ _
    · exact List.cons_ne_nil _ _

/-- A text in lower case is empty only when the text was. -/
theorem toList_lower_ne_nil {s : String} (h : s.toList ≠ []) : (lower s).toList ≠ [] := by
  rw [lower, String.toList_ofList]
  cases hs : s.toList with
  | nil => exact absurd hs h
  | cons c cs => exact List.append_ne_nil_of_left_ne_nil (lowerChar_ne_nil [] c cs) _

end CiteSieve.Text
