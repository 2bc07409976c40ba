import CiteSieve.Proofs.Regex.Literal

/-!
# Edges of words and runs of characters

The two parts of a plain term's expression that are no characters of the term: the edge of a word,
which takes nothing, and a greedy repetition of one test, which takes as many characters as the
test accepts in a row.

* `isWordEdge_iff`, `run_edge_iff`: where an edge is.
* `run_star`: a greedy repetition takes the longest run, if what follows can go on behind it.
-/

namespace CiteSieve

/-! ## Edges of words -/

/-- A word character stands at the offset `i`. -/
def IsWordAt (text : List Char) (i : Nat) : Prop :=
  ∃ c, text[i]? = some c ∧ Text.isWord c = true

/-- Exactly one of the two neighbours of the offset `i` is a word character. -/
def IsWordEdge (text : List Char) (i : Nat) : Prop :=
  Xor (∃ j, i = j + 1 ∧ IsWordAt text j) (IsWordAt text i)

theorem IsWordAt.lt_length {text : List Char} {i : Nat} (h : IsWordAt text i) :
    i < text.length := by
  obtain ⟨c, hc, -⟩ := h
  exact (List.getElem?_eq_some_iff.mp hc).1

theorem IsWordEdge.le_length {text : List Char} {i : Nat} (h : IsWordEdge text i) :
    i ≤ text.length := by
  rcases h with ⟨⟨j, rfl, hj⟩, -⟩ | ⟨hi, -⟩
  · exact hj.lt_length
  · exact Nat.le_of_lt hi.lt_length

/-- The first edge of a text is where a word begins. -/
theorem IsWordEdge.isWordAt {text : List Char} {i : Nat} (h : IsWordEdge text i)
    (hfirst : ∀ j < i, ¬ IsWordEdge text j) : IsWordAt text i := by
  have hnone : ∀ j < i, ¬ IsWordAt text j := by
    intro j hj hword
    induction j with
    | zero => exact hfirst 0 hj (.inr ⟨hword, fun ⟨k, hk, _⟩ => by cases hk⟩)
    | succ j ih =>
      refine hfirst (j + 1) hj (.inr ⟨hword, ?_⟩)
      rintro ⟨k, hk, hbefore⟩
      cases hk
      exact ih (Nat.lt_of_succ_lt hj) hbefore
  rcases h with ⟨⟨j, rfl, hj⟩, -⟩ | ⟨hi, -⟩
  · exact absurd hj (hnone j (Nat.lt_succ_self j))
  · exact hi

theorem wordAt_iff {text : List Char} {i : Nat} :
    wordAt text.toArray false i = true ↔ IsWordAt text i := by
  unfold wordAt IsWordAt
  rw [List.getElem?_toArray]
  cases text[i]? <;> simp

theorem wordBefore_iff {text : List Char} {i : Nat} :
    wordBefore text.toArray false i = true ↔ ∃ j, i = j + 1 ∧ IsWordAt text j := by
  cases i with
  | zero => simp [wordBefore]
  | succ i => simp [wordBefore, wordAt_iff]

/-- An empty text has no edge, so the test for one need not ask for more. -/
theorem isWordEdge_iff {text : List Char} {i : Nat} :
    (Anchor.wordEdge false false).holds text.toArray i = true ↔ IsWordEdge text i := by
  have hedge : isEdge text.toArray false i = true ↔ IsWordEdge text i := by
    rw [isEdge, bne_iff_ne, ne_eq, Bool.eq_iff_iff, wordBefore_iff, wordAt_iff, IsWordEdge,
      xor_iff_not_iff]
  rw [← hedge, Anchor.holds, Bool.bne_false, Bool.and_eq_true, bne_iff_ne, and_iff_right_iff_imp,
    hedge]
  intro h hsize
  rw [List.size_toArray, List.length_eq_zero_iff] at hsize
  rw [hsize] at h
  rcases h with ⟨⟨j, -, hj⟩, -⟩ | ⟨hi, -⟩
  · exact absurd hj.lt_length (Nat.not_lt_zero j)
  · exact absurd hi.lt_length (Nat.not_lt_zero i)

namespace Regex

theorem run_edge_iff {text : List Char} {k : Cont} {r s : State} :
    edge.run text.toArray k s = some r ↔ IsWordEdge text s.pos ∧ k s = some r := by
  rw [edge, run, ← isWordEdge_iff]
  split
  · rename_i h
    rw [h, eq_self, true_and]
  · rename_i h
    simp [h]

/-! ## Runs of characters -/

/-- How many characters from the offset `i` on the test accepts in a row. -/
def runLength (p : Char → Bool) (text : List Char) (i : Nat) : Nat :=
  ((text.drop i).takeWhile p).length

variable {p : Char → Bool} {text : List Char} {i : Nat}

theorem runLength_le : runLength p text i ≤ text.length :=
  Nat.le_trans (List.takeWhile_sublist p).length_le (List.drop_sublist i text).length_le

theorem runLength_of_none (h : text[i]? = none) : runLength p text i = 0 := by
  rw [runLength, List.drop_eq_nil_of_le (List.getElem?_eq_none_iff.mp h)]
  rfl

theorem runLength_of_some {c : Char} (h : text[i]? = some c) :
    runLength p text i = if p c then runLength p text (i + 1) + 1 else 0 := by
  obtain ⟨hlt, hc⟩ := List.getElem?_eq_some_iff.mp h
  rw [runLength, List.drop_eq_getElem_cons hlt, hc, List.takeWhile_cons]
  split
  · rfl
  · rfl

/-- **The rounds of a greedy repetition** of one test go on to the end of the run, where what
follows is asked first. -/
theorem greedyFrom_char {test : CharTest} {k : Cont} {r : State} :
    ∀ (fuel n : Nat) (last : Option Nat) (s : State),
      runLength test.accepts text s.pos < fuel → last ≠ some s.pos →
      k { s with pos := s.pos + runLength test.accepts text s.pos } = some r →
      greedyFrom ((Regex.char test).run text.toArray) 0 none k fuel n last s = some r
  | 0, _, _, _, hfuel, _, _ => absurd hfuel (Nat.not_lt_zero _)
  | fuel + 1, n, last, s, hfuel, hlast, hk => by
    have hround : (mayGoOn n none && last != some s.pos) = true := by simpa [mayGoOn] using hlast
    rw [greedyFrom, if_neg (Nat.not_lt_zero n), if_pos hround, run, List.getElem?_toArray]
    cases hc : text[s.pos]? with
    | none =>
      rw [runLength_of_none hc] at hk
      exact hk
    | some c =>
      rw [runLength_of_some hc] at hk hfuel
      by_cases haccepts : test.accepts c = true
      · rw [if_pos haccepts] at hk hfuel
        have hfuel' : runLength test.accepts text (s.pos + 1) < fuel :=
          Nat.lt_of_succ_lt_succ hfuel
        have hk' : k { s with pos := s.pos + 1 + runLength test.accepts text (s.pos + 1) } =
            some r := by
          rwa [Nat.add_assoc, Nat.add_comm 1]
        have hnext := greedyFrom_char fuel (n + 1) (some s.pos) { s with pos := s.pos + 1 }
          hfuel' (by simp) hk'
        dsimp only
        rw [if_pos haccepts, hnext]
      · rw [if_neg haccepts] at hk
        dsimp only
        rw [if_neg haccepts]
        exact hk

/-- **A greedy repetition of one test takes the longest run.** -/
theorem run_star {test : CharTest} (s : State) :
    (Regex.repeat .greedy 0 none (.char test)).run text.toArray some s =
      some { s with pos := s.pos + runLength test.accepts text s.pos } := by
  rw [run]
  refine greedyFrom_char _ 0 none s ?_ (by simp) rfl
  have hle : runLength test.accepts text s.pos ≤ text.length := runLength_le
  rw [roundLimit, List.size_toArray]
  omega

end Regex

end CiteSieve
