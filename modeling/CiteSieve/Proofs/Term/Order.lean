import CiteSieve.Proofs.Results
import CiteSieve.Term

/-!
# The longest term first

The usable terms of a list are looked for each once, the longest first and those of one length by
code point. This orders all terms, so nothing but the terms themselves decides the order.

* `ComesBefore`, `longestFirst_pairwise`: the order.
* `mem_longestFirst_iff`: what is ordered.
* `longestFirst_congr`: the order of the given terms and their repetitions do not matter.
-/

namespace CiteSieve.Term

/-! ## The order of two terms -/

/-- `a` is longer than `b`, or as long and before it by code point. -/
def ComesBefore (a b : String) : Prop :=
  b.length < a.length ∨ (a.length = b.length ∧ a < b)

instance (a b : String) : Decidable (ComesBefore a b) :=
  inferInstanceAs (Decidable (_ ∨ _))

theorem ComesBefore.trans {a b c : String} (h : ComesBefore a b) (h' : ComesBefore b c) :
    ComesBefore a c := by
  rcases h with hlt | ⟨heq, hlt⟩
  · rcases h' with hlt' | ⟨heq', -⟩
    · exact .inl (Nat.lt_trans hlt' hlt)
    · exact .inl (heq' ▸ hlt)
  · rcases h' with hlt' | ⟨heq', hlt'⟩
    · exact .inl (heq ▸ hlt')
    · exact .inr ⟨heq.trans heq', String.lt_trans hlt hlt'⟩

theorem ComesBefore.asymm {a b : String} (h : ComesBefore a b) : ¬ ComesBefore b a := by
  rintro (hlt' | ⟨heq', hlt'⟩)
  · rcases h with hlt | ⟨heq, -⟩
    · exact Nat.lt_asymm hlt hlt'
    · exact Nat.ne_of_lt hlt' heq
  · rcases h with hlt | ⟨-, hlt⟩
    · exact Nat.ne_of_lt hlt heq'
    · exact String.lt_asymm hlt hlt'

theorem comesBefore_or (a b : String) : ComesBefore a b ∨ a = b ∨ ComesBefore b a := by
  rcases Nat.lt_trichotomy a.length b.length with hlt | heq | hlt
  · exact .inr (.inr (.inl hlt))
  · by_cases hab : a < b
    · exact .inl (.inr ⟨heq, hab⟩)
    · rcases Std.le_iff_lt_or_eq.mp (String.not_lt.mp hab) with hba | hba
      · exact .inr (.inr (.inr ⟨heq.symm, hba⟩))
      · exact .inr (.inl hba.symm)
  · exact .inl (.inl hlt)

/-- What is sorted by is that no other term comes before. -/
theorem comesFirst_iff {a b : String} : comesFirst a b = true ↔ ¬ ComesBefore b a := by
  simp only [comesFirst, ComesBefore, Bool.or_eq_true, Bool.and_eq_true, beq_iff_eq,
    decide_eq_true_eq, Bool.not_eq_true', decide_eq_false_iff_not, not_or, not_and]
  constructor
  · rintro (hlt | ⟨heq, hle⟩)
    · exact ⟨Nat.lt_asymm hlt, fun he => absurd he (Nat.ne_of_lt hlt)⟩
    · exact ⟨Nat.not_lt_of_le (Nat.le_of_eq heq.symm), fun _ => hle⟩
  · rintro ⟨hle, himp⟩
    rcases Nat.lt_or_eq_of_le (Nat.not_lt.mp hle) with hlt | heq
    · exact .inl hlt
    · exact .inr ⟨heq.symm, himp heq⟩

theorem comesFirst_trans (a b c : String) (h : comesFirst a b = true)
    (h' : comesFirst b c = true) : comesFirst a c = true := by
  rw [comesFirst_iff] at h h' ⊢
  intro hca
  rcases comesBefore_or a b with hab | rfl | hba
  · exact h' (hca.trans hab)
  · exact h' hca
  · exact h hba

theorem comesFirst_total (a b : String) : (comesFirst a b || comesFirst b a) = true := by
  rw [Bool.or_eq_true, comesFirst_iff, comesFirst_iff]
  by_cases hba : ComesBefore b a
  · exact .inr hba.asymm
  · exact .inl hba

/-! ## The order of a list -/

variable {terms terms' : List String} {t : String}

/-- **The usable terms** are ordered, and no others. -/
theorem mem_longestFirst_iff : t ∈ longestFirst terms ↔ t ∈ terms ∧ isUsable t = true := by
  rw [longestFirst, List.mem_mergeSort, List.mem_eraseDups, List.mem_filter]

theorem nodup_longestFirst : (longestFirst terms).Nodup :=
  (List.mergeSort_perm _ _).nodup_iff.mpr (nodup_eraseDups _)

/-- **Of two terms the longer one stands first**, of two of one length the one before the other by
code point. -/
theorem longestFirst_pairwise : (longestFirst terms).Pairwise ComesBefore := by
  have hsorted : (longestFirst terms).Pairwise fun a b => comesFirst a b = true :=
    List.pairwise_mergeSort comesFirst_trans comesFirst_total _
  refine (hsorted.and nodup_longestFirst).imp fun {a b} h => ?_
  obtain ⟨hle, hne⟩ := h
  rcases comesBefore_or a b with hab | heq | hba
  · exact hab
  · exact absurd heq hne
  · exact absurd hba (comesFirst_iff.mp hle)

/-- There is one such order of the usable terms. -/
theorem longestFirst_unique {ordered : List String} (hordered : ordered.Pairwise ComesBefore)
    (hmem : ∀ t, t ∈ ordered ↔ t ∈ terms ∧ isUsable t = true) : ordered = longestFirst terms := by
  have hnodup : ordered.Nodup := hordered.imp fun {a b} h heq => by
    subst heq
    exact h.asymm h
  refine List.Perm.eq_of_pairwise (fun a b _ _ hab hba => absurd hba hab.asymm) hordered
    longestFirst_pairwise ?_
  rw [List.perm_ext_iff_of_nodup hnodup nodup_longestFirst]
  intro t
  rw [hmem, mem_longestFirst_iff]

/-- **Nothing but the usable terms decides**: neither the order in which they are given nor how
often. -/
theorem longestFirst_congr (h : ∀ t, isUsable t = true → (t ∈ terms ↔ t ∈ terms')) :
    longestFirst terms = longestFirst terms' :=
  longestFirst_unique longestFirst_pairwise fun t => by
    rw [mem_longestFirst_iff]
    exact and_congr_left (h t)

end CiteSieve.Term
