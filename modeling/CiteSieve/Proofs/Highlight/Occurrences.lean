import CiteSieve.Highlight
import CiteSieve.Proofs.Regex.Literal

/-!
# Searching again and again

The matches of a pattern are found by searching on from the end of the last one, and one further
on behind a match of nothing. Each search begins further on than the one before it, so the loop
ends at the end of the text.

* `Pattern.Loop`: the loop as it is run, without a bound on the searches.
* `Pattern.loop_iff`: it ends, with the occurrences of the pattern.
* `Pattern.mem_occurrences`: an occurrence is a range of the text that is not empty.
* `Pattern.search?_of_mem_occurrences`: it is found by a search that begins where it does.
-/

namespace CiteSieve.Pattern

/-- The loop that is at `pos` ends, and the matches that it takes from there on are `ms`. -/
inductive Loop (p : Pattern) (t : Array Char) : (pos : Nat) → (ms : List Regex.Match) → Prop
  | past {pos : Nat} (h : t.size < pos) : Loop p t pos []
  | done {pos : Nat} (hpos : pos ≤ t.size) (h : p.regex.search? t p.groupCount pos = none) :
      Loop p t pos []
  | skip {pos : Nat} {m : Regex.Match} {ms : List Regex.Match} (hpos : pos ≤ t.size)
      (h : p.regex.search? t p.groupCount pos = some m) (hm : m.start = m.stop)
      (hms : Loop p t (m.stop + 1) ms) : Loop p t pos ms
  | take {pos : Nat} {m : Regex.Match} {ms : List Regex.Match} (hpos : pos ≤ t.size)
      (h : p.regex.search? t p.groupCount pos = some m) (hm : m.start ≠ m.stop)
      (hms : Loop p t m.stop ms) : Loop p t pos (m :: ms)

variable {p : Pattern} {t : Array Char}

/-- As many searches as there are positions from `pos` on are enough. -/
theorem loop_occurrencesFrom : ∀ (fuel pos : Nat), t.size < fuel + pos →
    Loop p t pos (p.occurrencesFrom t fuel pos)
  | 0, pos, hpos => .past (by omega)
  | fuel + 1, pos, hpos => by
    rw [occurrencesFrom]
    by_cases hin : pos ≤ t.size
    · rw [if_pos hin]
      cases h : p.regex.search? t p.groupCount pos with
      | none => exact .done hin h
      | some m =>
        obtain ⟨hstart, hstop, -⟩ := Regex.search?_bounds h
        dsimp only
        split
        · rename_i hm
          exact .skip hin h hm (loop_occurrencesFrom fuel (m.stop + 1) (by omega))
        · rename_i hm
          exact .take hin h hm (loop_occurrencesFrom fuel m.stop (by omega))
    · rw [if_neg hin]
      exact .past (Nat.not_le.mp hin)

/-- The loop has one outcome. -/
theorem Loop.unique {pos : Nat} {ms ms' : List Regex.Match} (h : Loop p t pos ms)
    (h' : Loop p t pos ms') : ms = ms' := by
  induction h generalizing ms' with
  | past hpos =>
    cases h' with
    | past => rfl
    | done hin => omega
    | skip hin => omega
    | take hin => omega
  | done hin hnone =>
    cases h' with
    | past hpos => rfl
    | done => rfl
    | skip _ h => cases hnone.symm.trans h
    | take _ h => cases hnone.symm.trans h
  | skip hin hsome hm _ ih =>
    cases h' with
    | past hpos => omega
    | done _ h => cases hsome.symm.trans h
    | skip _ h _ hms =>
      cases hsome.symm.trans h
      exact ih hms
    | take _ h hne _ =>
      cases hsome.symm.trans h
      exact absurd hm hne
  | take hin hsome hm _ ih =>
    cases h' with
    | past hpos => omega
    | done _ h => cases hsome.symm.trans h
    | skip _ h he _ =>
      cases hsome.symm.trans h
      exact absurd he hm
    | take _ h _ hms =>
      cases hsome.symm.trans h
      rw [ih hms]

/-- What the loop takes are ranges of the text that are not empty. -/
theorem Loop.bounds {pos : Nat} {ms : List Regex.Match} (h : Loop p t pos ms) :
    ∀ m ∈ ms, m.start < m.stop ∧ m.stop ≤ t.size := by
  induction h with
  | past => exact fun m hm => absurd hm List.not_mem_nil
  | done => exact fun m hm => absurd hm List.not_mem_nil
  | skip _ _ _ _ ih => exact ih
  | take _ hsome hm _ ih =>
    obtain ⟨-, hle, hsize⟩ := Regex.search?_bounds hsome
    exact List.forall_mem_cons.mpr ⟨⟨by omega, hsize⟩, ih⟩

/-- **The loop ends, with the occurrences of the pattern.** -/
theorem loop_iff (p : Pattern) (text : String) (ms : List Regex.Match) :
    Loop p text.toList.toArray 0 ms ↔ ms = p.occurrences text := by
  have hends : Loop p text.toList.toArray 0 (p.occurrences text) := by
    refine loop_occurrencesFrom _ _ ?_
    rw [List.size_toArray, String.length_toList]
    omega
  constructor
  · intro h
    exact h.unique hends
  · rintro rfl
    exact hends

theorem mem_occurrences {text : String} {m : Regex.Match} (h : m ∈ p.occurrences text) :
    m.start < m.stop ∧ m.stop ≤ text.length := by
  have hbounds := ((loop_iff p text _).mpr rfl).bounds m h
  rwa [List.size_toArray, String.length_toList] at hbounds

/-- What the loop takes is found by a search. -/
theorem Loop.exists_search {pos : Nat} {ms : List Regex.Match} (h : Loop p t pos ms) :
    ∀ m ∈ ms, ∃ start, p.regex.search? t p.groupCount start = some m := by
  induction h with
  | past => exact fun m hm => absurd hm List.not_mem_nil
  | done => exact fun m hm => absurd hm List.not_mem_nil
  | skip _ _ _ _ ih => exact ih
  | take _ hsome _ _ ih => exact List.forall_mem_cons.mpr ⟨⟨_, hsome⟩, ih⟩

/-- **An occurrence** is found by a search that begins where it does. -/
theorem search?_of_mem_occurrences {text : String} {m : Regex.Match}
    (h : m ∈ p.occurrences text) : p.search? text m.start = some m := by
  obtain ⟨start, hm⟩ := ((loop_iff p text _).mpr rfl).exists_search m h
  exact Regex.search?_start hm

/-- A first match that is not empty is an occurrence. -/
theorem mem_occurrences_of_search? {text : String} {m : Regex.Match}
    (h : p.search? text 0 = some m) (hm : m.start < m.stop) : m ∈ p.occurrences text := by
  rw [occurrences, occurrencesFrom, if_pos (Nat.zero_le _),
    show p.regex.search? _ _ 0 = some m from h]
  dsimp only
  rw [if_neg (Nat.ne_of_lt hm)]
  exact List.mem_cons_self

end CiteSieve.Pattern
