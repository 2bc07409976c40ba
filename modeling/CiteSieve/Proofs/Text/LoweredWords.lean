import CiteSieve.Proofs.Text.Lowered
import CiteSieve.Text.Word

/-!
# Words in lower case

A letter in lower case is a word character exactly if the letter was one, and nothing but a letter
moves. So a test for word characters does not see the case of a text.

* `isWord_lowerCode`: the lower-case form of a character is a word character if the character is.
* `lowerCode_eq_iff`: what stands before the capitals is the lower-case form of itself alone.
-/

namespace CiteSieve.Text

/-! ## Runs of words -/

/-- One range holds all code points from `a` to `b`. -/
def Ranges.covers (rs : Ranges) (a b : Nat) : Bool :=
  rs.any fun r => r.1.ble a && b.ble r.2

/-- No range holds any code point from `a` to `b`. -/
def Ranges.misses (rs : Ranges) (a b : Nat) : Bool :=
  rs.all fun r => r.2.blt a || b.blt r.1

theorem Ranges.has_of_covers {rs : Ranges} {a b n : Nat} (h : rs.covers a b = true) (ha : a ≤ n)
    (hb : n ≤ b) : rs.has n = true := by
  obtain ⟨r, hr, hholds⟩ := List.any_eq_true.mp h
  simp only [Bool.and_eq_true, Nat.ble_eq] at hholds
  exact Ranges.has_iff.mpr ⟨r, hr, by omega, by omega⟩

theorem Ranges.has_of_misses {rs : Ranges} {a b n : Nat} (h : rs.misses a b = true) (ha : a ≤ n)
    (hb : n ≤ b) : rs.has n = false := by
  rw [Bool.eq_false_iff]
  intro hhas
  obtain ⟨r, hr, hfirst, hlast⟩ := Ranges.has_iff.mp hhas
  have hmiss := List.all_eq_true.mp h r hr
  simp only [Bool.or_eq_true, Nat.blt_eq] at hmiss
  omega

/-- All members of the run are word characters beyond ASCII. -/
def Shift.movesWords (s : Shift) : Bool :=
  wordRanges.covers s.first s.last ||
    (List.range ((s.last - s.first) / s.step + 1)).all fun i =>
      wordRanges.covers (s.first + i * s.step) (s.first + i * s.step)

/-- What the run is moved to are word characters. -/
def Shift.reachesWords (s : Shift) : Bool :=
  Nat.ble 0x80 s.firstImage && wordRanges.covers s.firstImage s.lastImage ||
    Nat.ble 0x61 s.firstImage && s.lastImage.ble 0x7a

/-- The run neither holds word characters nor is moved to any. -/
def Shift.avoidsWords (s : Shift) : Bool :=
  wordRanges.misses s.first s.last && wordRanges.misses s.firstImage s.lastImage &&
    Nat.ble 0x80 s.firstImage

theorem lowerShifts_keep_words :
    (lowerShifts.all fun s => s.movesWords && s.reachesWords || s.avoidsWords) = true := by
  decide +kernel

/-- The runs lie beyond ASCII, are moved to characters, and to none before the small letters. -/
theorem lowerShifts_bounds : ∀ s ∈ lowerShifts, 0x80 ≤ s.first ∧ 0 < s.step ∧
    0x60 < s.firstImage ∧
    (s.lastImage < 0xd800 ∨ (0xdfff < s.firstImage ∧ s.lastImage < 0x110000)) := by
  decide +kernel

/-! ## Single code points -/

/-- The code point is that of a word character. -/
def isWordCode (n : Nat) : Bool :=
  isWord (Char.ofNat n)

theorem isWordCode_eq_has {n : Nat} (h : n < 0xd800 ∨ (0xdfff < n ∧ n < 0x110000))
    (hn : 0x80 ≤ n) : isWordCode n = wordRanges.has n := by
  rw [isWordCode, isWord, toNat_ofNat h, if_neg (Nat.not_lt.mpr hn)]

theorem isWordCode_of_small : ∀ n < 0x7b, 0x60 < n → isWordCode n = true := by
  decide +kernel

theorem isWordCode_lowerCode_ascii : ∀ n < 0x80, isWordCode (lowerCode n) = isWordCode n := by
  decide +kernel

section Run

variable {s : Shift} {i n : Nat}

/-- A member stands between the ends of its run, and its image between the images of the ends. -/
theorem Shift.IsMember.bounds (hn : s.IsMember i n) : s.first ≤ n ∧ n ≤ s.last ∧
    s.firstImage ≤ (n + s.delta).toNat ∧ (n + s.delta).toNat ≤ s.lastImage := by
  have hfirst : s.first ≤ n := hn.eq ▸ Nat.le_add_right _ _
  have hlast := hn.le
  unfold Shift.firstImage Shift.lastImage
  omega

theorem has_of_movesWords (hstep : 0 < s.step) (h : s.movesWords = true) (hn : s.IsMember i n) :
    wordRanges.has n = true := by
  have hlast := hn.le
  have hmember := hn.eq
  rcases Bool.or_eq_true_iff.mp h with hall | heach
  · exact Ranges.has_of_covers hall hn.bounds.1 hlast
  · have hi : i < (s.last - s.first) / s.step + 1 := by
      rw [Nat.lt_succ_iff, Nat.le_div_iff_mul_le hstep]
      omega
    have hcovers := List.all_eq_true.mp heach i (List.mem_range.mpr hi)
    exact Ranges.has_of_covers hcovers (by omega) (by omega)

theorem isWordCode_of_reachesWords (hvalid : s.lastImage < 0xd800 ∨
      (0xdfff < s.firstImage ∧ s.lastImage < 0x110000)) (h : s.reachesWords = true)
    (hfirst : s.firstImage ≤ n) (hlast : n ≤ s.lastImage) : isWordCode n = true := by
  rcases Bool.or_eq_true_iff.mp h with hall | hsmall
  · obtain ⟨hbeyond, hcovers⟩ := Bool.and_eq_true_iff.mp hall
    rw [Nat.ble_eq] at hbeyond
    rw [isWordCode_eq_has (by omega) (by omega), Ranges.has_of_covers hcovers hfirst hlast]
  · simp only [Bool.and_eq_true, Nat.ble_eq] at hsmall
    exact isWordCode_of_small n (by omega) (by omega)

/-- **What a run has moved** is a word character if it was one. -/
theorem isWordCode_moved {c : Char} (hs : s ∈ lowerShifts) (hc : s.IsMember i c.toNat) :
    isWordCode (c.toNat + s.delta).toNat = isWordCode c.toNat := by
  obtain ⟨hascii, hstep, -, hvalid⟩ := lowerShifts_bounds s hs
  obtain ⟨hfirst, hlast, hfirstImage, hlastImage⟩ := hc.bounds
  have hcode : isWordCode c.toNat = wordRanges.has c.toNat :=
    isWordCode_eq_has c.valid (by omega)
  rw [hcode]
  rcases Bool.or_eq_true_iff.mp (List.all_eq_true.mp lowerShifts_keep_words s hs) with
    hwords | hnone
  · obtain ⟨hmoves, hreaches⟩ := Bool.and_eq_true_iff.mp hwords
    rw [has_of_movesWords hstep hmoves hc,
      isWordCode_of_reachesWords hvalid hreaches hfirstImage hlastImage]
  · simp only [Shift.avoidsWords, Bool.and_eq_true, Nat.ble_eq] at hnone
    obtain ⟨⟨hmisses, hmissesImage⟩, hbeyond⟩ := hnone
    rw [Ranges.has_of_misses hmisses hfirst hlast, isWordCode_eq_has (by omega) (by omega),
      Ranges.has_of_misses hmissesImage hfirstImage hlastImage]

end Run

/-- **A character in lower case** is a word character exactly if the character is one. -/
theorem isWord_lowerCode (c : Char) : isWord (Char.ofNat (lowerCode c.toNat)) = isWord c := by
  have hself : isWord c = isWordCode c.toNat := by rw [isWordCode, Char.ofNat_toNat]
  rw [hself]
  by_cases hascii : c.toNat < 0x80
  · exact isWordCode_lowerCode_ascii c.toNat hascii
  · have heq : lowerCode c.toNat = shiftCode lowerShifts c.toNat := if_neg hascii
    rw [heq]
    rcases shiftCode_cases lowerShifts c.toNat with hsame | ⟨s, hs, i, hmember, hmoved⟩
    · rw [hsame, isWordCode]
    · rw [hmoved]
      exact isWordCode_moved hs hmember

/-- What stands before the capitals is the lower-case form of itself alone. -/
theorem lowerCode_eq_iff {m n : Nat} (hm : m < 0x41) : lowerCode n = m ↔ n = m := by
  by_cases hascii : n < 0x80
  · unfold lowerCode
    rw [if_pos hascii]
    split
    · rename_i hletter
      simp only [Bool.and_eq_true, decide_eq_true_eq] at hletter
      omega
    · rfl
  · have heq : lowerCode n = shiftCode lowerShifts n := if_neg hascii
    rw [heq]
    rcases shiftCode_cases lowerShifts n with hsame | ⟨s, hs, i, hmember, hmoved⟩
    · rw [hsame]
    · have hfirst : s.first ≤ n := hmember.eq ▸ Nat.le_add_right _ _
      have himage := (lowerShifts_bounds s hs).2.2.1
      unfold Shift.firstImage at himage
      rw [hmoved]
      omega

end CiteSieve.Text
