import CiteSieve.Proofs.Evaluation.Compiled

/-!
# The value of a query

Values are joined from the left, without precedence (`foldValues`); the values of a query are
those of its usable blocks (`Block.holds`), and its operators join them in the order in which
they stand (`Query.evaluation_ok`).

* `foldValues_injective`: two lists of operators that join all values alike are the same list, so
  an operator cannot be moved without being noticed.
* `foldValues_replicate_and`: values that `AND` joins are true when all of them are.
* `Query.evaluation_congr`: an evaluation depends on the usable blocks and on the operators that
  join them.
-/

namespace CiteSieve

/-! ## Joining values -/

/-- The values joined from the left by the operators; no values make `true`. -/
def foldValues (os : List Operator) : List Bool → Bool
  | [] => true
  | v :: vs => (os.zip vs).foldl (fun value ov => ov.1.apply value ov.2) v

theorem foldValues_cons (o : Operator) (os : List Operator) (v w : Bool) (vs : List Bool) :
    foldValues (o :: os) (v :: w :: vs) = foldValues os (o.apply v w :: vs) := rfl

theorem zip_take_length {α β : Type} : ∀ (as : List α) (bs : List β),
    (as.take bs.length).zip bs = as.zip bs
  | [], bs => by rw [List.take_nil]
  | a :: as, [] => by rw [List.zip_nil_right, List.zip_nil_right]
  | a :: as, b :: bs => by
    rw [List.length_cons, List.take_succ_cons, List.zip_cons_cons, List.zip_cons_cons,
      zip_take_length as bs]

/-- Operators that join nothing are not looked at. -/
theorem foldValues_take (os : List Operator) (vs : List Bool) :
    foldValues (os.take (vs.length - 1)) vs = foldValues os vs := by
  cases vs with
  | nil => rfl
  | cons v vs =>
    unfold foldValues
    simp only [List.length_cons, Nat.add_sub_cancel, zip_take_length]

/-- The value that an operator does not change anything with. -/
def Operator.neutral : Operator → Bool
  | .and => true
  | .or => false

theorem Operator.apply_neutral (o : Operator) (v : Bool) : o.apply v o.neutral = v := by
  cases o <;> cases v <;> rfl

theorem Operator.apply_self (o : Operator) (v : Bool) : o.apply v v = v := by
  cases o <;> cases v <;> rfl

theorem Operator.eq_of_apply {o o' : Operator} (h : o.apply true false = o'.apply true false) :
    o = o' := by
  cases o <;> cases o' <;> first | rfl | exact absurd h (by decide)

theorem foldValues_neutral (v : Bool) : ∀ os : List Operator,
    foldValues os (v :: os.map Operator.neutral) = v
  | [] => rfl
  | o :: os => by
    rw [List.map_cons, foldValues_cons, Operator.apply_neutral, foldValues_neutral v os]

/-- **Operators are told apart by the values they join.** -/
theorem foldValues_injective : ∀ {os os' : List Operator}, os.length = os'.length →
    (∀ vs, vs.length = os.length + 1 → foldValues os vs = foldValues os' vs) → os = os'
  | [], [], _, _ => rfl
  | o :: os, o' :: os', hlen, h => by
    rw [List.length_cons, List.length_cons, Nat.add_right_cancel_iff] at hlen
    -- The first operator joins two equal values to that value, whichever it is.
    have hos : os = os' := by
      refine foldValues_injective hlen fun vs hvs => ?_
      cases vs with
      | nil => exact absurd hvs (by simp)
      | cons v vs =>
        have hv := h (v :: v :: vs) (by simpa using hvs)
        rwa [foldValues_cons, foldValues_cons, Operator.apply_self, Operator.apply_self] at hv
    -- Behind it every other operator gets a value that leaves the first result alone.
    have ho : o = o' := by
      apply Operator.eq_of_apply
      have hv := h (true :: false :: os.map Operator.neutral) (by simp)
      rw [foldValues_cons, foldValues_cons, foldValues_neutral, hos, foldValues_neutral] at hv
      exact hv
    rw [hos, ho]

/-- **Values that are joined by `AND`** make a true value when all of them are true. -/
theorem foldValues_replicate_and : ∀ {n : Nat} {vs : List Bool}, vs.length ≤ n + 1 →
    (foldValues (List.replicate n .and) vs = true ↔ ∀ v ∈ vs, v = true)
  | _, [], _ => by simp [foldValues]
  | _, [v], _ => by simp [foldValues]
  | 0, v :: w :: vs, h => absurd h (by simp)
  | n + 1, v :: w :: vs, h => by
    rw [List.replicate_succ, foldValues_cons, foldValues_replicate_and (by simpa using h)]
    simp [Operator.apply, and_assoc]

/-! ## Blocks and queries -/

/-- Some usable term of the block is found in some text that is not empty. -/
def Block.fires (b : Block) (caseInsensitive : Bool) (texts : Field → String) : Bool :=
  Field.all.any fun f => texts f ≠ "" &&
    b.usableTerms.any fun t => Term.isFound t b.isRegex caseInsensitive (texts f)

/-- The value of a block: it fires, or it is excluded and does not. -/
def Block.holds (b : Block) (caseInsensitive : Bool) (texts : Field → String) : Bool :=
  b.fires caseInsensitive texts != b.exclude

theorem Block.termsFound_ne_nil {b : Block} {ci : Bool} {text : String} :
    b.termsFound ci text ≠ [] ↔
      text ≠ "" ∧ ∃ t ∈ b.usableTerms, Term.isFound t b.isRegex ci text = true := by
  unfold Block.termsFound
  split
  · rename_i h
    simp [h]
  · rename_i h
    simp [h]

theorem Block.fires_eq (b : Block) (ci : Bool) (texts : Field → String) :
    b.fires ci texts = !(b.hitsIn ci texts).isEmpty := by
  rw [Bool.eq_iff_iff]
  unfold Block.fires FieldHits.isEmpty FieldHits.fields Block.hitsIn
  simp only [List.any_eq_true, Bool.and_eq_true, decide_eq_true_eq, Bool.not_eq_true',
    List.isEmpty_eq_false_iff, ne_eq, List.filter_eq_nil_iff, FieldHits.get_ofFun]
  push Not
  exact exists_congr fun f => and_congr_right fun _ => Block.termsFound_ne_nil.symm

theorem Block.contribution_hitsIn (b : Block) (ci : Bool) (texts : Field → String) :
    b.contribution (b.hitsIn ci texts) = b.holds ci texts := by
  unfold Block.contribution Block.holds
  rw [Block.fires_eq]

theorem Evaluation.takeBlock_ok (e : Evaluation) (join : Bool → Bool → Bool) (ci : Bool)
    (texts : Field → String) (b : Block) :
    (e.takeBlock join ci texts b).ok = join e.ok (b.holds ci texts) := by
  unfold Evaluation.takeBlock Evaluation.take
  rw [Block.contribution_hitsIn]
  dsimp only
  split <;> rfl

theorem foldl_takeBlock_ok (ci : Bool) (texts : Field → String) :
    ∀ (joined : List (Operator × Block)) (e : Evaluation),
      (joined.foldl (fun e ob => e.takeBlock ob.1.apply ci texts ob.2) e).ok =
        (joined.map fun ob => (ob.1, ob.2.holds ci texts)).foldl
          (fun value ov => ov.1.apply value ov.2) e.ok
  | [], e => rfl
  | ob :: joined, e => by
    rw [List.foldl_cons, foldl_takeBlock_ok ci texts joined, Evaluation.takeBlock_ok]
    rfl

/-- **The value of a query**: the values of its usable blocks, joined from the left by its
operators as they stand. -/
theorem Query.evaluation_ok (q : Query) (texts : Field → String) :
    (q.evaluation texts).ok =
      foldValues q.operators (q.usableBlocks.map fun b => b.holds q.caseInsensitive texts) := by
  unfold Query.evaluation
  cases q.usableBlocks with
  | nil => rfl
  | cons b bs =>
    simp only []
    rw [foldl_takeBlock_ok, Evaluation.takeBlock_ok, List.map_cons, foldValues, List.zip_map_right]
    rfl

/-- **An evaluation** depends on the usable blocks and on the operators that join them. -/
theorem Query.evaluation_congr {q p : Query} (hci : q.caseInsensitive = p.caseInsensitive)
    (hblocks : q.usableBlocks = p.usableBlocks)
    (hops : q.operators.take (p.usableBlocks.length - 1) =
      p.operators.take (p.usableBlocks.length - 1)) (texts : Field → String) :
    q.evaluation texts = p.evaluation texts := by
  unfold Query.evaluation
  rw [hblocks, hci]
  cases hbs : p.usableBlocks with
  | nil => rfl
  | cons b bs =>
    rw [hbs, List.length_cons, Nat.add_sub_cancel] at hops
    dsimp only
    rw [← zip_take_length q.operators bs, hops, zip_take_length]

end CiteSieve
