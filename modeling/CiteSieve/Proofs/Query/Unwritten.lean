import CiteSieve.Proofs.Query.Written

/-!
# Queries that cannot be written

A query that is not consistent may lack an operator that is to be written. The operator before a
block goes by the position of the block in the query, and is asked for once a block has been
written; so a blank block asks for none, and moves on the operators of those behind it.

* `LacksOperatorAt`: the operator before the block at a position is asked for, and missing.
* `lacksOperatorAt_iff`: the blocks that are written, without the first, are asked for theirs.
* `toText_fails_iff`: writing fails exactly where such a position is, and reports the first.
-/

namespace CiteSieve.Query

/-- The block at position `i` is usable, so is a block before it, and the query has no operator at
the position before. -/
structure LacksOperatorAt (q : Query) (i : Nat) : Prop where
  pos : 1 ≤ i
  usable : ∃ b, q.blocks[i]? = some b ∧ b.isUsable = true
  begun : ∃ j < i, ∃ b, q.blocks[j]? = some b ∧ b.isUsable = true
  missing : q.operators.length ≤ i - 1

/-! ## Places in order -/

theorem mem_usablePlaces_iff {q : Query} {p : Block × Nat} :
    p ∈ q.usablePlaces ↔ q.blocks[p.2]? = some p.1 ∧ p.1.isUsable = true := by
  unfold usablePlaces placesFrom
  rw [List.mem_filter, List.mem_zipIdx_iff_getElem?]

theorem pairwise_placesFrom (i : Nat) (bs : List Block) :
    (placesFrom i bs).Pairwise fun p p' => p.2 < p'.2 := by
  have h : ((bs.zipIdx i).map Prod.snd).Pairwise (· < ·) := by
    rw [List.zipIdx_map_snd]
    exact List.pairwise_lt_range'
  exact (List.pairwise_map.mp h).filter _

/-- Of places in order, all but the first have one before them. -/
theorem mem_tail_iff_of_pairwise {ps : List (Block × Nat)}
    (h : ps.Pairwise fun p p' => p.2 < p'.2) {p : Block × Nat} :
    p ∈ ps.tail ↔ p ∈ ps ∧ ∃ p' ∈ ps, p'.2 < p.2 := by
  cases ps with
  | nil => simp
  | cons first ps =>
    obtain ⟨hfirst, -⟩ := List.pairwise_cons.mp h
    rw [List.tail_cons]
    constructor
    · intro hp
      exact ⟨List.mem_cons_of_mem _ hp, first, List.mem_cons_self, hfirst p hp⟩
    · rintro ⟨hp, p', hp', hlt⟩
      rcases List.mem_cons.mp hp with rfl | hp
      · -- Nothing comes before the first.
        rcases List.mem_cons.mp hp' with rfl | hp'
        · exact absurd hlt (Nat.lt_irrefl _)
        · exact absurd (hfirst p' hp') (Nat.lt_asymm hlt)
      · exact hp

/-! ## Missing operators -/

theorem lacksOperator_iff {os : List Operator} {p : Block × Nat} :
    lacksOperator os p = true ↔ os.length ≤ p.2 - 1 := by
  unfold lacksOperator operatorAt?
  rw [Option.isNone_iff_eq_none, List.getElem?_eq_none_iff]

/-- **What is asked for and missing** belongs to a block that is written, and not as the first. -/
theorem lacksOperatorAt_iff {q : Query} {i : Nat} : q.LacksOperatorAt i ↔
    ∃ b, (b, i) ∈ q.usablePlaces.tail ∧ lacksOperator q.operators (b, i) = true := by
  have htail : ∀ p, p ∈ q.usablePlaces.tail ↔ p ∈ q.usablePlaces ∧ ∃ p' ∈ q.usablePlaces,
      p'.2 < p.2 := fun p => mem_tail_iff_of_pairwise (pairwise_placesFrom 0 q.blocks)
  simp only [htail, mem_usablePlaces_iff, lacksOperator_iff]
  constructor
  · rintro ⟨-, ⟨b, hb⟩, ⟨j, hj, b', hb'⟩, hmissing⟩
    exact ⟨b, ⟨hb, (b', j), hb', hj⟩, hmissing⟩
  · rintro ⟨b, ⟨hb, ⟨b', j⟩, hb', hj⟩, hmissing⟩
    exact ⟨Nat.one_le_of_lt hj, ⟨b, hb⟩, ⟨j, hj, b', hb'⟩, hmissing⟩

/-- A consistent query has an operator before every block but the first. -/
theorem not_lacksOperatorAt_of_isConsistent {q : Query} (h : q.isConsistent = true) (i : Nat) :
    ¬ q.LacksOperatorAt i := by
  rintro ⟨hpos, ⟨b, hb, -⟩, -, hmissing⟩
  have hlt : i < q.blocks.length := (List.getElem?_eq_some_iff.mp hb).1
  have hlen := length_eq_of_isConsistent h
  omega

/-- The first place that lacks its operator is the least. -/
theorem lacksOperatorAt_of_find? {q : Query} {p : Block × Nat}
    (h : q.usablePlaces.tail.find? (lacksOperator q.operators) = some p) :
    q.LacksOperatorAt p.2 ∧ ∀ i, q.LacksOperatorAt i → p.2 ≤ i := by
  obtain ⟨hlacks, before, after, heq, hbefore⟩ := List.find?_eq_some_iff_append.mp h
  have hmem : p ∈ q.usablePlaces.tail := by
    rw [heq]
    exact List.mem_append_right _ List.mem_cons_self
  refine ⟨lacksOperatorAt_iff.mpr ⟨p.1, hmem, hlacks⟩, fun i hi => ?_⟩
  obtain ⟨b, hb, hmissing⟩ := lacksOperatorAt_iff.mp hi
  have hsorted : q.usablePlaces.tail.Pairwise fun p p' => p.2 < p'.2 :=
    (pairwise_placesFrom 0 q.blocks).tail
  rw [heq] at hb hsorted
  rcases List.mem_append.mp hb with hb | hb
  · exact absurd hmissing (by simpa using hbefore _ hb)
  · rcases List.mem_cons.mp hb with rfl | hb
    · exact Nat.le_refl _
    · have hafter := (List.pairwise_append.mp hsorted).2.1
      exact Nat.le_of_lt ((List.pairwise_cons.mp hafter).1 _ hb)

/-- **When a query cannot be written.** Writing fails exactly when a usable block stands behind
another one and the query has no operator at the position before it, and reports the first such
position. Otherwise what is written are the usable blocks with their operators between them. So a
consistent query is always written, whatever its blocks are. -/
theorem toText_fails_iff (q : Query) :
    ((∃ e, q.toText = .error e) ↔ ∃ i, q.LacksOperatorAt i) ∧
    (∀ e, q.toText = .error e →
      q.LacksOperatorAt (e.index + 1) ∧ ∀ i, q.LacksOperatorAt i → e.index + 1 ≤ i) ∧
    ((¬ ∃ i, q.LacksOperatorAt i) →
      q.toText = .ok (" ".intercalate (writtenParts q.writtenOperators q.usableBlocks))) ∧
    (q.isConsistent = true → ∃ text, q.toText = .ok text) := by
  have heq := toText_eq_elim q
  cases hfind : q.usablePlaces.tail.find? (lacksOperator q.operators) with
  | none =>
    rw [hfind, Option.elim_none] at heq
    have hno : ¬ ∃ i, q.LacksOperatorAt i := by
      rintro ⟨i, hi⟩
      obtain ⟨b, hb, hmissing⟩ := lacksOperatorAt_iff.mp hi
      exact List.find?_eq_none.mp hfind _ hb hmissing
    have hok : ∀ e, q.toText ≠ .error e := fun e he => nomatch heq.symm.trans he
    exact ⟨iff_of_false (fun ⟨e, he⟩ => hok e he) hno, fun e he => absurd he (hok e),
      fun _ => heq, fun _ => ⟨_, heq⟩⟩
  | some p =>
    rw [hfind, Option.elim_some] at heq
    obtain ⟨hlacks, hleast⟩ := lacksOperatorAt_of_find? hfind
    have hindex : p.2 - 1 + 1 = p.2 := Nat.sub_add_cancel hlacks.pos
    refine ⟨iff_of_true ⟨_, heq⟩ ⟨p.2, hlacks⟩, fun e he => ?_, fun hno => absurd ⟨p.2, hlacks⟩ hno,
      fun hconsistent => absurd hlacks (not_lacksOperatorAt_of_isConsistent hconsistent p.2)⟩
    obtain rfl : (⟨p.2 - 1⟩ : MissingOperator) = e := Except.error.inj (heq.symm.trans he)
    rw [hindex]
    exact ⟨hlacks, hleast⟩

/-- Blank blocks before and between three others, and one operator less than these ask for. -/
def blankedQuery : Query where
  blocks := [{ name := "A", terms := [" "] }, { name := "B", terms := ["beta"] },
    { name := "C" }, { name := "D", terms := ["delta"], exclude := true },
    { name := "E", terms := ["eps"] }]
  operators := [.or, .or, .and]

theorem toText_blankedQuery : blankedQuery.toText = .error ⟨3⟩ ∧
    (∀ i, blankedQuery.LacksOperatorAt i → 4 ≤ i) ∧
    ∃ text, { blankedQuery with operators := [.or, .or, .and, .or] }.toText = .ok text := by
  have herror : blankedQuery.toText = .error ⟨3⟩ := rfl
  exact ⟨herror, ((toText_fails_iff blankedQuery).2.1 _ herror).2,
    (toText_fails_iff _).2.2.2 (by decide)⟩

end CiteSieve.Query
