import CiteSieve.Proofs.Evaluation.Hits

/-!
# Which block decides

Values are joined from the left without precedence, so a value that is joined by `or` makes
everything before it forgotten if it is true, and one that is joined by `and` if it is false. What
comes out is true exactly when some true value is forgotten by none behind it: it stands first or
is joined by `or`, and every value behind it that is joined by `and` is true.

* `Decides`: such a value; `foldValues_eq_true_iff`: the fold is true when there is one.
* `Query.evaluate_ok_iff`: the value of a query, without a fold.
-/

namespace CiteSieve

/-! ## Values -/

/-- All values that are joined by `and` are true. -/
def KeepTrue (os : List Operator) (vs : List Bool) : Prop :=
  ∀ i : Nat, os[i]? = some .and → vs[i]? ≠ some false

/-- The value at `k` is true, whatever stands before it, and stays so through all that is joined
behind it. -/
def Decides (os : List Operator) (vs : List Bool) (k : Nat) : Prop :=
  vs[k]? = some true ∧ (k = 0 ∨ os[k - 1]? = some .or) ∧
    KeepTrue (os.drop k) (vs.drop (k + 1))

theorem keepTrue_nil_left (vs : List Bool) : KeepTrue [] vs :=
  fun _ hi => absurd hi (by simp)

theorem keepTrue_nil_right (os : List Operator) : KeepTrue os [] :=
  fun _ _ => by simp

theorem keepTrue_cons_iff {o : Operator} {os : List Operator} {v : Bool} {vs : List Bool} :
    KeepTrue (o :: os) (v :: vs) ↔ (o = .and → v = true) ∧ KeepTrue os vs := by
  unfold KeepTrue
  rw [← Nat.and_forall_add_one]
  simp

section Decides

variable {o : Operator} {os : List Operator} {v w : Bool} {vs : List Bool} {k : Nat}

theorem decides_zero_iff : Decides os (v :: vs) 0 ↔ v = true ∧ KeepTrue os vs := by
  simp [Decides]

/-- The second value decides only if the first one is forgotten. -/
theorem decides_one_iff :
    Decides (o :: os) (v :: w :: vs) 1 ↔ o = .or ∧ Decides os (w :: vs) 0 := by
  simp only [Decides, List.getElem?_cons_succ, List.getElem?_cons_zero, List.drop_succ_cons,
    List.drop_zero, Nat.sub_self, Nat.succ_ne_zero, false_or, true_or, true_and,
    Option.some.injEq]
  exact and_left_comm

/-- Further on it does not matter what the first two values are joined to. -/
theorem decides_add_two_iff (x : Bool) :
    Decides (o :: os) (v :: w :: vs) (k + 2) ↔ Decides os (x :: vs) (k + 1) := by
  simp [Decides]

/-- Of two values that are joined, the one decides that their joint value comes from. -/
theorem decides_join_iff :
    Decides (o :: os) (v :: w :: vs) 0 ∨ Decides (o :: os) (v :: w :: vs) 1 ↔
      Decides os (o.apply v w :: vs) 0 := by
  rw [decides_one_iff, decides_zero_iff, decides_zero_iff, decides_zero_iff, keepTrue_cons_iff]
  cases o <;> cases v <;> cases w <;> simp [Operator.apply]

end Decides

/-- **What is joined from the left is true when some value decides.** -/
theorem foldValues_eq_true_iff : ∀ (os : List Operator) (v : Bool) (vs : List Bool),
    foldValues os (v :: vs) = true ↔ ∃ k, Decides os (v :: vs) k
  | [], v, vs => by
    constructor
    · exact fun hv => ⟨0, decides_zero_iff.mpr ⟨hv, keepTrue_nil_left vs⟩⟩
    · rintro ⟨k, hk, rfl | hor, -⟩
      · exact Option.some.inj hk
      · exact absurd hor (by simp)
  | o :: os, v, [] => by
    constructor
    · exact fun hv => ⟨0, decides_zero_iff.mpr ⟨hv, keepTrue_nil_right (o :: os)⟩⟩
    · rintro ⟨k, hk, -⟩
      cases k with
      | zero => exact Option.some.inj hk
      | succ k => exact absurd hk (by simp)
  | o :: os, v, w :: vs => by
    rw [foldValues_cons, foldValues_eq_true_iff os (o.apply v w) vs]
    constructor
    · rintro ⟨k, hk⟩
      cases k with
      | zero => exact (decides_join_iff.mpr hk).elim (fun h => ⟨0, h⟩) fun h => ⟨1, h⟩
      | succ k => exact ⟨k + 2, (decides_add_two_iff (o.apply v w)).mpr hk⟩
    · rintro ⟨k, hk⟩
      match k, hk with
      | 0, hk => exact ⟨0, decides_join_iff.mp (.inl hk)⟩
      | 1, hk => exact ⟨0, decides_join_iff.mp (.inr hk)⟩
      | k + 2, hk => exact ⟨k + 1, (decides_add_two_iff (o.apply v w)).mp hk⟩

/-- A value decides only where an operator reaches it, and only values that operators reach can
overrule it. -/
theorem decides_iff_reached {os : List Operator} {vs : List Bool} {k : Nat} :
    Decides os vs k ↔
      k < min vs.length (os.length + 1) ∧ vs[k]? = some true ∧
        (k = 0 ∨ os[k - 1]? = some .or) ∧
        ∀ j, k < j → j < min vs.length (os.length + 1) → os[j - 1]? = some .and →
          vs[j]? = some true := by
  unfold Decides KeepTrue
  simp only [List.getElem?_drop]
  constructor
  · rintro ⟨hk, hor, hall⟩
    obtain ⟨hlt, -⟩ := List.getElem?_eq_some_iff.mp hk
    have hreached : k < os.length + 1 := by
      rcases hor with rfl | hor
      · exact Nat.succ_pos _
      · obtain ⟨hlt, -⟩ := List.getElem?_eq_some_iff.mp hor
        omega
    refine ⟨Nat.lt_min.mpr ⟨hlt, hreached⟩, hk, hor, fun j hj hjn hand => ?_⟩
    have hjlt : j < vs.length := (Nat.lt_min.mp hjn).1
    have hne := hall (j - 1 - k) (by rwa [show k + (j - 1 - k) = j - 1 by omega])
    rw [show k + 1 + (j - 1 - k) = j by omega, List.getElem?_eq_getElem hjlt] at hne
    rw [List.getElem?_eq_getElem hjlt]
    simpa using hne
  · rintro ⟨-, hk, hor, hall⟩
    refine ⟨hk, hor, fun i hand hfalse => ?_⟩
    obtain ⟨hlt, -⟩ := List.getElem?_eq_some_iff.mp hfalse
    obtain ⟨holt, -⟩ := List.getElem?_eq_some_iff.mp hand
    have htrue := hall (k + 1 + i) (by omega) (Nat.lt_min.mpr ⟨hlt, by omega⟩)
      (by rwa [show k + 1 + i - 1 = k + i by omega])
    rw [hfalse] at htrue
    cases htrue

/-! ## Queries -/

/-- What a block contributes to the value of its query: it is found, or it is excluded and is
not. -/
def Block.contributes (b : Block) (ci : Bool) (selection : Selection) (texts : Field → String) :
    Bool :=
  b.isFoundIn ci selection texts != b.exclude

/-- What the usable blocks of a query contribute, in order. -/
def Query.contributions (q : Query) (selection : Selection) (texts : Field → String) :
    List Bool :=
  q.usableBlocks.map fun b => b.contributes q.caseInsensitive selection texts

theorem CompiledQuery.evaluate_ok_eq {q : Query} {c : CompiledQuery} (hc : q.compile = .ok c)
    (selection : Selection) (texts : Field → String) :
    (c.evaluate selection texts).ok =
      foldValues q.operators (q.contributions selection texts) := by
  unfold CompiledQuery.evaluate Query.contributions
  rw [CompiledQuery.evaluateTexts_of_compile hc, Query.evaluation_ok]
  simp only [Block.holds, Block.contributes, Block.fires_selected]

/-- **The value of a query, without a fold.** A query without usable blocks holds of everything.
Any other holds exactly when, among the blocks that operators reach, some block contributes `true`
that stands first or is joined by `or`, and so does every block behind it that is joined by
`and`. A query can be evaluated whenever its terms have patterns. -/
theorem Query.evaluate_ok_iff (q : Query) :
    ((∃ c, q.compile = .ok c) ↔ ∀ b ∈ q.usableBlocks, ∀ t ∈ b.usableTerms,
      ∃ p, Term.compile t b.isRegex q.caseInsensitive = .ok p) ∧
    ∀ c, q.compile = .ok c → ∀ (selection : Selection) (texts : Field → String),
      let cs := q.contributions selection texts
      let n := min cs.length (q.operators.length + 1)
      (c.evaluate selection texts).ok = true ↔
        cs.length = 0 ∨ ∃ k, k < n ∧ cs[k]? = some true ∧
          (k = 0 ∨ q.operators[k - 1]? = some .or) ∧
          ∀ j, k < j → j < n → q.operators[j - 1]? = some .and → cs[j]? = some true := by
  refine ⟨Query.exists_compile_iff, fun c hc selection texts => ?_⟩
  simp only [CompiledQuery.evaluate_ok_eq hc, ← decides_iff_reached, List.length_eq_zero_iff]
  cases hcs : q.contributions selection texts with
  | nil => exact iff_of_true rfl (.inl rfl)
  | cons v vs => rw [foldValues_eq_true_iff]; simp

/-- Five usable blocks, of which operators reach the first four; the second is excluded and the
blank block between them is dropped. -/
def shortQuery : Query where
  blocks := [⟨"A", ["gamma"], false, false, newBlockId⟩, ⟨"B", ["delta"], false, true, newBlockId⟩,
    ⟨"C", [" "], false, false, newBlockId⟩, ⟨"D", ["alpha"], false, false, newBlockId⟩,
    ⟨"E", ["be*"], false, false, newBlockId⟩, ⟨"F", ["gamma"], false, false, newBlockId⟩]
  operators := [.and, .or, .and]

theorem shortQuery_evaluate_ok_iff :
    ∃ c, shortQuery.compile = .ok c ∧
      shortQuery.contributions {} titledTexts = [false, true, true, true, false] ∧
      (c.evaluate {} titledTexts).ok = true ∧
      (c.evaluate { title := false } titledTexts).ok = false := by
  obtain ⟨c, hc⟩ : ∃ c, shortQuery.compile = .ok c := ⟨_, rfl⟩
  obtain ⟨-, hok⟩ := Query.evaluate_ok_iff shortQuery
  refine ⟨c, hc, by decide, ?_, ?_⟩
  · -- The third block decides, being joined by `or` and followed by a block that is found.
    refine (hok c hc {} titledTexts).mpr (.inr ⟨2, by decide, by decide, by decide, ?_⟩)
    intro j hj hjn _
    have hn : min (shortQuery.contributions {} titledTexts).length
      (shortQuery.operators.length + 1) = 4 := by decide
    obtain rfl : j = 3 := by omega
    decide
  · -- Where no title is read, only the excluded block contributes, and `or` does not join it.
    have hcs : shortQuery.contributions { title := false } titledTexts =
      [false, true, false, false, false] := by decide
    have hnone : ∀ k : Nat, k < 4 → shortQuery.operators[k - 1]? = some .or →
      [false, true, false, false, false][k]? ≠ some true := by decide
    rw [Bool.eq_false_iff]
    intro htrue
    rcases (hok c hc { title := false } titledTexts).mp htrue with hlen | ⟨k, hk, htrue, hor, -⟩
    · rw [hcs] at hlen
      cases hlen
    · rw [hcs] at hk htrue
      rcases hor with rfl | hor
      · cases htrue
      · exact hnone k (Nat.lt_min.mp hk).2 hor htrue

end CiteSieve
