import CiteSieve.Regex.Match

/-!
# Matches lie ahead

A matcher goes on from where it began or from further on, and never beyond the end of the text:
looking ahead and looking behind give back the position they were called at. So a match that is
found from a position lies between it and the end.

* `MovesOn`: the property of a matcher, whatever it goes on with; `movesOn_run` for expressions.
* `search?_bounds`: where a match that was searched for lies.
-/

namespace CiteSieve.Regex

variable {t : Array Char}

/-- Going on happens at the position of `s` or further on, within the text. -/
def GoesOn (t : Array Char) (k : Cont) (s : State) (r : State) : Prop :=
  ∃ s', s.pos ≤ s'.pos ∧ s'.pos ≤ t.size ∧ k s' = some r

/-- **A matcher moves on**: what it goes on with is asked at a position not before the first one
and within the text. -/
def MovesOn (t : Array Char) (m : Cont → Cont) : Prop :=
  ∀ k s r, s.pos ≤ t.size → m k s = some r → GoesOn t k s r

theorem GoesOn.here {k : Cont} {s r : State} (hs : s.pos ≤ t.size) (h : k s = some r) :
    GoesOn t k s r :=
  ⟨s, Nat.le_refl _, hs, h⟩

/-- Going on from further on is going on. -/
theorem GoesOn.from {k : Cont} {s s' r : State} (hs : s.pos ≤ s'.pos) (h : GoesOn t k s' r) :
    GoesOn t k s r := by
  obtain ⟨s₁, hle, hsize, hk⟩ := h
  exact ⟨s₁, Nat.le_trans hs hle, hsize, hk⟩

/-- What a matcher reaches when nothing is left to do. -/
theorem MovesOn.bounds {m : Cont → Cont} (h : MovesOn t m) {s s' : State}
    (hs : s.pos ≤ t.size) (e : m some s = some s') : s.pos ≤ s'.pos ∧ s'.pos ≤ t.size := by
  obtain ⟨s₁, hle, hsize, hk⟩ := h some s s' hs e
  cases hk
  exact ⟨hle, hsize⟩

/-- One matcher after another. -/
theorem MovesOn.comp {m m' : Cont → Cont} (h : MovesOn t m) (h' : MovesOn t m') :
    MovesOn t fun k => m (m' k) := by
  intro k s r hs e
  obtain ⟨s₁, hle, hsize, hk⟩ := h _ s r hs e
  exact (h' k s₁ r hsize hk).from hle

/-! ## Repetitions -/

theorem movesOn_greedyFrom {body : Cont → Cont} (h : MovesOn t body) (least : Nat)
    (most : Option Nat) : ∀ (fuel n : Nat) (last : Option Nat),
      MovesOn t fun k => greedyFrom body least most k fuel n last
  | 0, _, _ => fun _ _ _ _ e => absurd e (by simp [greedyFrom])
  | fuel + 1, n, last => by
    intro k s r hs e
    have hround := fun last => h.comp (movesOn_greedyFrom h least most fuel (n + 1) last)
    simp only [greedyFrom] at e
    split at e
    · exact hround last k s r hs e
    · split at e
      · split at e
        · rename_i he
          exact hround (some s.pos) k s r hs (he.trans e)
        · exact .here hs e
      · exact .here hs e

theorem movesOn_lazyFrom {body : Cont → Cont} (h : MovesOn t body) (least : Nat)
    (most : Option Nat) : ∀ (fuel n : Nat) (last : Option Nat),
      MovesOn t fun k => lazyFrom body least most k fuel n last
  | 0, _, _ => fun _ _ _ _ e => absurd e (by simp [lazyFrom])
  | fuel + 1, n, last => by
    intro k s r hs e
    have hround := fun last => h.comp (movesOn_lazyFrom h least most fuel (n + 1) last)
    simp only [lazyFrom] at e
    split at e
    · exact hround last k s r hs e
    · split at e
      · rename_i hk
        exact .here hs (hk.trans e)
      · split at e
        · exact hround (some s.pos) k s r hs e
        · cases e

theorem possessiveFrom_bounds {body : Cont → Cont} (h : MovesOn t body) (least : Nat)
    (most : Option Nat) : ∀ (fuel n : Nat) (last : Option Nat) {s s' : State}, s.pos ≤ t.size →
      possessiveFrom body least most fuel n last s = some s' →
        s.pos ≤ s'.pos ∧ s'.pos ≤ t.size
  | 0, _, _, _, _, _, e => absurd e (by simp [possessiveFrom])
  | fuel + 1, n, last, s, s', hs, e => by
    have hround : ∀ last s₁, body some s = some s₁ →
        possessiveFrom body least most fuel (n + 1) last s₁ = some s' →
        s.pos ≤ s'.pos ∧ s'.pos ≤ t.size := by
      intro last s₁ he e
      obtain ⟨hle, hsize⟩ := h.bounds hs he
      obtain ⟨hle', hsize'⟩ := possessiveFrom_bounds h least most fuel (n + 1) last hsize e
      exact ⟨Nat.le_trans hle hle', hsize'⟩
    simp only [possessiveFrom] at e
    split at e
    · split at e
      · rename_i he
        exact hround last _ he e
      · cases e
    · split at e
      · split at e
        · rename_i he
          exact hround (some s.pos) _ he e
        · cases e
          exact ⟨Nat.le_refl _, hs⟩
      · cases e
        exact ⟨Nat.le_refl _, hs⟩

/-! ## Expressions -/

theorem repeatsAt_bound {fold : Fold} {a b pos : Nat} (h : repeatsAt t fold a b pos = true) :
    pos + (b - a) ≤ t.size := by
  unfold repeatsAt at h
  exact of_decide_eq_true (Bool.and_eq_true_iff.mp h).1

/-- **Every expression moves on.** -/
theorem movesOn_run (r : Regex) : MovesOn t (r.run t) := by
  induction r with
  | empty =>
    intro k s r hs e
    exact .here hs e
  | char test =>
    intro k s r hs e
    rw [run] at e
    split at e
    · rename_i c hc
      obtain ⟨hlt, -⟩ := Array.getElem?_eq_some_iff.mp hc
      split at e
      · exact ⟨{ s with pos := s.pos + 1 }, Nat.le_succ _, hlt, e⟩
      · cases e
    · cases e
  | anchor a =>
    intro k s r hs e
    rw [run] at e
    split at e
    · exact .here hs e
    · cases e
  | seq a b iha ihb => exact iha.comp ihb
  | alt a b iha ihb =>
    intro k s r hs e
    rw [run] at e
    split at e
    · rename_i he
      exact iha k s r hs (he.trans e)
    · exact ihb k s r hs e
  | «repeat» greed least most body ih =>
    intro k s r hs e
    cases greed with
    | greedy => exact movesOn_greedyFrom ih least most _ _ _ k s r hs e
    | lazy => exact movesOn_lazyFrom ih least most _ _ _ k s r hs e
    | possessive =>
      rw [run] at e
      split at e
      · rename_i s' he
        obtain ⟨hle, hsize⟩ := possessiveFrom_bounds ih least most _ _ _ hs he
        exact ⟨s', hle, hsize, e⟩
      · cases e
  | group index body ih =>
    intro k s r hs e
    obtain ⟨s', hle, hsize, hk⟩ := ih _ (s.openGroup index) r hs e
    exact ⟨s'.closeGroup index, hle, hsize, hk⟩
  | backref index fold =>
    intro k s r hs e
    rw [run] at e
    split at e
    · rename_i a b _
      split at e
      · rename_i hrep
        exact ⟨{ s with pos := s.pos + (b - a) }, Nat.le_add_right _ _, repeatsAt_bound hrep, e⟩
      · cases e
    · cases e
  | ahead negated body ih =>
    intro k s r hs e
    cases negated with
    | false =>
      rw [run] at e
      split at e
      · rename_i s' _
        exact ⟨{ s' with pos := s.pos }, Nat.le_refl _, hs, e⟩
      · cases e
    | true =>
      rw [run] at e
      split at e
      · cases e
      · exact .here hs e
  | behind negated back body ih =>
    intro k s r hs e
    cases negated with
    | false =>
      rw [run] at e
      split at e
      · split at e
        · rename_i s' _
          exact ⟨{ s' with pos := s.pos }, Nat.le_refl _, hs, e⟩
        · cases e
      · cases e
    | true =>
      rw [run] at e
      split at e
      · split at e
        · cases e
        · exact .here hs e
      · exact .here hs e
  | atomic body ih =>
    intro k s r hs e
    rw [run] at e
    split at e
    · rename_i s' he
      obtain ⟨hle, hsize⟩ := ih.bounds hs he
      exact ⟨s', hle, hsize, e⟩
    · cases e
  | ifGroup index yes no ihyes ihno =>
    intro k s r hs e
    rw [run] at e
    split at e
    · exact ihyes k s r hs e
    · exact ihno k s r hs e

/-! ## Searches -/

theorem matchAt?_bounds {r : Regex} {groupCount i : Nat} {m : Match} (hi : i ≤ t.size)
    (h : matchAt? t r groupCount i = some m) :
    m.start = i ∧ m.start ≤ m.stop ∧ m.stop ≤ t.size := by
  obtain ⟨s, hs, rfl⟩ := Option.map_eq_some_iff.mp h
  exact ⟨rfl, (movesOn_run r).bounds (s := { pos := i }) hi hs⟩

theorem searchFrom_bounds {r : Regex} {groupCount : Nat} {m : Match} :
    ∀ (n i : Nat), i + n ≤ t.size → searchFrom t r groupCount n i = some m →
      i ≤ m.start ∧ m.start ≤ m.stop ∧ m.stop ≤ t.size
  | 0, i, hi, h => by
    obtain ⟨rfl, hbounds⟩ := matchAt?_bounds hi h
    exact ⟨Nat.le_refl _, hbounds⟩
  | n + 1, i, hi, h => by
    rw [searchFrom] at h
    split at h
    · rename_i hm
      cases h
      obtain ⟨rfl, hbounds⟩ := matchAt?_bounds (by omega) hm
      exact ⟨Nat.le_refl _, hbounds⟩
    · obtain ⟨hle, hbounds⟩ := searchFrom_bounds n (i + 1) (by omega) h
      exact ⟨by omega, hbounds⟩

/-- **A match lies between the position that it is searched from and the end.** -/
theorem search?_bounds {r : Regex} {groupCount start : Nat} {m : Match}
    (h : r.search? t groupCount start = some m) :
    min start t.size ≤ m.start ∧ m.start ≤ m.stop ∧ m.stop ≤ t.size :=
  searchFrom_bounds _ _ (by omega) h

end CiteSieve.Regex
