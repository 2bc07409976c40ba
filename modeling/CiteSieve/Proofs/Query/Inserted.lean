import Mathlib.Data.List.InsertIdx
import CiteSieve.Proofs.Evaluation.Hits
import CiteSieve.Proofs.Query.Edited
import CiteSieve.Proofs.Query.Reading

/-!
# Inserted blocks

What is left of a block that is inserted and removed again, and what a block without usable terms
does to the value of a query. An inserted block brings its `AND` behind it, a removed block takes
the operator before it away, and a query is evaluated with its first operators. So neither an
insertion that is taken back nor the insertion of a blank block goes unnoticed, unless the
operators that lose their places are `AND` as well.

* `Query.rejoined`: the query with an `AND` between two of its blocks.
* `Query.remove_insert_eq_rejoined`: what is left of an insertion that is taken back.
* `Query.evaluate_insert_blank`: a blank block changes nothing of what is reported, and it changes
  the value by the `AND` that comes with it.
-/

namespace CiteSieve

theorem Evaluation.SameReports.eq_of_ok {e e' : Evaluation} (h : e.SameReports e')
    (hok : e.ok = e'.ok) : e = e' := by
  cases e
  cases e'
  obtain ⟨hnames, hhits⟩ := h
  congr

/-! ## One more operator -/

/-- A member in front pushes out the last one, which is not seen if all of them are alike. -/
theorem take_cons_length_eq_iff {α : Type} {a : α} : ∀ {as : List α},
    (a :: as).take as.length = as ↔ ∀ b ∈ as, b = a
  | [] => by simp
  | b :: bs => by
    rw [List.length_cons, List.take_succ_cons, List.cons.injEq, List.forall_mem_cons]
    constructor
    · rintro ⟨rfl, hbs⟩
      exact ⟨rfl, take_cons_length_eq_iff.mp hbs⟩
    · rintro ⟨rfl, hbs⟩
      exact ⟨rfl, take_cons_length_eq_iff.mpr hbs⟩

/-- An operator that is put before others joins all values as they did only if it is one of their
kind, and they are all alike. -/
theorem foldValues_append_cons_drop_iff (o : Operator) (os : List Operator) (k : Nat) :
    (∀ vs : List Bool, vs.length = os.length + 1 →
      foldValues (os.take k ++ o :: os.drop k) vs = foldValues os vs) ↔
    ∀ o' ∈ os.drop k, o' = o := by
  have hlen : (os.take k).length + (os.drop k).length = os.length := by
    rw [← List.length_append, List.take_append_drop]
  have htake : (os.take k ++ o :: os.drop k).take os.length =
      os.take k ++ (o :: os.drop k).take (os.drop k).length := by
    rw [← hlen, List.take_length_add_append]
  -- Values for `os` leave the last of the operators without use.
  have hused : ∀ vs : List Bool, vs.length = os.length + 1 →
      foldValues (os.take k ++ o :: os.drop k) vs =
        foldValues (os.take k ++ (o :: os.drop k).take (os.drop k).length) vs := by
    intro vs hvs
    rw [← htake, ← foldValues_take (os.take k ++ _), hvs, Nat.add_sub_cancel]
  rw [← take_cons_length_eq_iff, ← List.append_right_inj (os.take k), List.take_append_drop]
  have hsize : (os.take k ++ (o :: os.drop k).take (os.drop k).length).length = os.length := by
    rw [← htake, List.length_take, List.length_append, List.length_cons]
    omega
  constructor
  · intro hjoin
    refine foldValues_injective hsize fun vs hvs => ?_
    rw [hsize] at hvs
    rw [← hused vs hvs, hjoin vs hvs]
  · intro hsame vs hvs
    rw [hused vs hvs, hsame]

namespace Query

theorem length_insert_blocks (q : Query) (index : Int) (block : Option Block) :
    (q.insert index block).blocks.length = q.blocks.length + 1 := by
  unfold insert
  exact List.length_insertIdx_of_le_length (q.clampIndex_le index) _

/-- The `AND` of an inserted block stands behind it, or at the end. -/
theorem insert_operators {q : Query} (h : q.blocks ≠ []) (index : Int) (block : Option Block) :
    (q.insert index block).operators =
      q.operators.insertIdx (min (q.clampIndex index) q.operators.length) .and := by
  have hne : q.blocks.isEmpty = false := List.isEmpty_eq_false_iff.mpr h
  unfold insert
  simp only [hne, Bool.false_eq_true, if_false]

theorem insert_operators_eq_append {q : Query} (h : q.blocks ≠ []) (index : Int)
    (block : Option Block) :
    (q.insert index block).operators =
      q.operators.take (q.clampIndex index) ++ .and :: q.operators.drop (q.clampIndex index) := by
  rw [insert_operators h, insertIdx_eq_append _ (Nat.min_le_right _ _), ← List.take_eq_take_min,
    ← List.drop_eq_drop_min]

/-! ## Removing what was inserted -/

/-- The query with an `AND` between its blocks at `i - 1` and `i`, if there are both. -/
def rejoined (q : Query) (i : Nat) : Query :=
  { q with
    operators :=
      if 0 < i ∧ i < q.blocks.length then q.operators.set (i - 1) .and else q.operators }

/-- The block that was inserted is the one that is removed. -/
theorem eraseIdx_insert_blocks (q : Query) (index : Int) (block : Option Block) :
    (q.insert index block).blocks.eraseIdx (q.clampIndex index) = q.blocks := by
  unfold insert
  exact List.eraseIdx_insertIdx_self _

/-- The `AND` that was inserted is the operator that is removed at both ends. Between other blocks
it stays, and the operator before it goes. -/
theorem eraseIdx_insert_operators {q : Query} (h : q.isConsistent = true) (index : Int)
    (block : Option Block) :
    (q.insert index block).operators.eraseIdx (q.clampIndex index - 1) =
      (q.rejoined (q.clampIndex index)).operators := by
  rw [isConsistent_iff] at h
  have hle := q.clampIndex_le index
  unfold rejoined
  dsimp only
  by_cases hnil : q.blocks = []
  · have hzero : q.blocks.length = 0 := by rw [hnil, List.length_nil]
    have hops : q.operators = [] := List.eq_nil_of_length_eq_zero (by omega)
    rw [insert_operators_of_nil hnil, hops, List.eraseIdx_nil, List.set_nil, ite_self]
  · have hpos := List.length_pos_iff.mpr hnil
    rw [insert_operators hnil]
    by_cases hmid : 0 < q.clampIndex index ∧ q.clampIndex index < q.blocks.length
    · obtain ⟨i, hi⟩ := Nat.exists_eq_add_one.mpr hmid.1
      have hlt : i < q.operators.length := by omega
      rw [if_pos hmid, hi, Nat.min_eq_left hlt, Nat.add_sub_cancel,
        ← List.insertIdx_eraseIdx_of_ge hlt (Nat.le_refl i),
        List.insertIdx_eraseIdx_self (Nat.ne_of_lt hlt)]
    · have hsame : q.clampIndex index - 1 = min (q.clampIndex index) q.operators.length := by omega
      rw [if_neg hmid, hsame, List.eraseIdx_insertIdx_self]

theorem remove_insert {q : Query} (h : q.isConsistent = true) (index : Int)
    (block : Option Block) :
    (q.insert index block).remove (q.clampIndex index) = .ok (q.rejoined (q.clampIndex index)) := by
  have hle := q.clampIndex_le index
  have hlen := q.length_insert_blocks index block
  have hin : 0 ≤ (q.clampIndex index : Int) ∧
      (q.clampIndex index : Int) < (q.insert index block).blocks.length := by omega
  rw [remove_eq (isConsistent_insert h index block), if_pos hin, Int.toNat_natCast]
  congr 1
  unfold without
  rw [eraseIdx_insert_blocks, eraseIdx_insert_operators h]
  rfl

/-- Only another operator between the two blocks makes a difference. -/
theorem rejoined_eq_self_iff {q : Query} (h : q.isConsistent = true) {i : Nat}
    (hi : i ≤ q.blocks.length) :
    q.rejoined i = q ↔ i = 0 ∨ i = q.blocks.length ∨ q.operators[i - 1]? = some .and := by
  rw [isConsistent_iff] at h
  unfold rejoined
  by_cases hmid : 0 < i ∧ i < q.blocks.length
  · have hlt : i - 1 < q.operators.length := by omega
    have hset : q.operators.set (i - 1) .and = q.operators ↔
        q.operators[i - 1]? = some .and := by
      constructor
      · intro heq
        rw [← heq, List.getElem?_set_self hlt]
      · intro hand
        obtain ⟨_, hget⟩ := List.getElem?_eq_some_iff.mp hand
        rw [← hget, List.set_getElem_self]
    rw [if_pos hmid, or_iff_right (by omega), or_iff_right (by omega), ← hset]
    constructor
    · exact fun heq => congrArg operators heq
    · intro heq
      rw [heq]
  · rw [if_neg hmid]
    exact iff_of_true rfl (by omega)

/-- **A block that is inserted and removed again** leaves the blocks as they were, and the
operators too, except between other blocks: there the two neighbours are joined by `AND`
afterwards, whatever joined them before. -/
theorem remove_insert_eq_rejoined {q : Query} (h : q.isConsistent = true) (index : Int)
    (block : Option Block) :
    ∃ k : Nat, (k : Int) = max 0 (min index q.blocks.length) ∧
      (q.insert index block).remove k = .ok (q.rejoined k) ∧
      (q.rejoined k).blocks = q.blocks ∧ q.SameSettings (q.rejoined k) ∧
      ((q.insert index block).remove k = .ok q ↔
        k = 0 ∨ k = q.blocks.length ∨ q.operators[k - 1]? = some .and) := by
  refine ⟨q.clampIndex index, q.natCast_clampIndex index, remove_insert h index block, rfl,
    ⟨rfl, rfl⟩, ?_⟩
  rw [remove_insert h, Except.ok.injEq, rejoined_eq_self_iff h (q.clampIndex_le index)]

theorem remove_insert_paired :
    paired.isConsistent = true ∧ (paired.insert 7 none).remove 2 = .ok paired ∧
      (paired.insert (-1) none).remove 0 = .ok paired := by
  have h : paired.isConsistent = true := by decide
  obtain ⟨k, hk, -, -, -, hback⟩ := remove_insert_eq_rejoined h 7 none
  obtain ⟨l, hl, -, -, -, hfront⟩ := remove_insert_eq_rejoined h (-1) none
  have hk2 : k = 2 := by
    have hlen : paired.blocks.length = 2 := rfl
    omega
  have hl0 : l = 0 := by omega
  subst hk2 hl0
  exact ⟨h, hback.mpr (.inr (.inl rfl)), hfront.mpr (.inl rfl)⟩

/-- Between two blocks that are joined by `OR`. -/
theorem remove_insert_paired_ne :
    paired.isConsistent = true ∧ paired.operators = [.or] ∧
    (paired.insert 1 (some ⟨"N", ["nu"], false, false, newBlockId⟩)).remove 1 =
      .ok { paired with operators := [.and] } ∧
    (paired.insert 1 (some ⟨"N", ["nu"], false, false, newBlockId⟩)).remove 1 ≠ .ok paired := by
  refine ⟨by decide, rfl, by decide, by decide⟩

/-! ## Inserting a blank block -/

/-- Operators that join nothing are not looked at. -/
theorem evaluate_ok_operators {q : Query} {c : CompiledQuery} (hc : q.compile = .ok c)
    (selection : Selection) (texts : Field → String) :
    (c.evaluate selection texts).ok = foldValues q.operators (q.valuesOn selection texts) := by
  have hlen : (q.valuesOn selection texts).length = q.usableBlocks.length := List.length_map _
  rw [evaluate_ok hc, foldedOperators, ← hlen, foldValues_take]

/-- A block without usable terms is left out of what is evaluated. -/
theorem usableBlocks_insert {q : Query} {block : Option Block}
    (hblock : (block.getD q.blankBlock).isUsable = false) (index : Int) :
    (q.insert index block).usableBlocks = q.usableBlocks := by
  have hneg : ¬ (block.getD q.blankBlock).isUsable = true := by
    rw [hblock]
    exact Bool.false_ne_true
  unfold usableBlocks
  rw [insert_blocks, List.filter_append, List.filter_cons_of_neg hneg, ← List.filter_append,
    List.take_append_drop]

/-- Only the operators of the compiled query are others. -/
theorem compile_insert {q : Query} {block : Option Block}
    (hblock : (block.getD q.blankBlock).isUsable = false) (index : Int) :
    (q.insert index block).compile =
      q.compile.map fun c => { c with operators := (q.insert index block).operators } := by
  have hblocks : (q.insert index block).blocks.filter Block.isUsable =
      q.blocks.filter Block.isUsable := usableBlocks_insert hblock index
  have hcase : (q.insert index block).caseInsensitive = q.caseInsensitive := rfl
  unfold compile
  rw [hblocks, hcase]
  cases (q.blocks.filter Block.isUsable).mapM (·.compile q.caseInsensitive) with
  | error e => rfl
  | ok bs => rfl

/-- The same blocks are folded, so the same is reported. -/
theorem evaluate_operators_sameReports {c : CompiledQuery} {os : List Operator}
    (h : c.blocks.length - 1 ≤ c.operators.length) (hos : c.blocks.length - 1 ≤ os.length)
    (selection : Selection) (texts : Field → String) :
    (CompiledQuery.evaluate { c with operators := os } selection texts).SameReports
      (c.evaluate selection texts) := by
  unfold CompiledQuery.evaluate CompiledQuery.evaluateTexts
  dsimp only
  cases hbs : c.blocks with
  | nil => exact ⟨rfl, rfl⟩
  | cons b bs =>
    rw [hbs, List.length_cons, Nat.add_sub_cancel] at h hos
    refine foldBlocks_reports_eq _ ?_ ⟨rfl, rfl⟩
    rw [List.map_snd_zip h, List.map_snd_zip hos]

/-- Its value joins the values of the blocks with the `AND` among the operators. -/
theorem evaluate_insert_ok {q : Query} {block : Option Block}
    (hblock : (block.getD q.blankBlock).isUsable = false) {index : Int} {c : CompiledQuery}
    (hc : (q.insert index block).compile = .ok c) (selection : Selection)
    (texts : Field → String) :
    (c.evaluate selection texts).ok = foldValues
      (q.operators.take (q.clampIndex index) ++ .and :: q.operators.drop (q.clampIndex index))
      (q.valuesOn selection texts) := by
  have hvalues : (q.insert index block).valuesOn selection texts =
      q.valuesOn selection texts := by
    unfold valuesOn
    rw [usableBlocks_insert hblock]
    rfl
  rw [evaluate_ok_operators hc, hvalues]
  by_cases hnil : q.blocks = []
  · have hnone : q.valuesOn selection texts = [] := by
      unfold valuesOn usableBlocks
      rw [hnil]
      rfl
    rw [hnone]
    rfl
  · rw [insert_operators_eq_append hnil]

/-- **A blank block in a query of usable blocks** changes nothing of what is reported. The value
is joined with one more `AND`, and so by other operators than before unless all operators behind
the block are `AND`: then the evaluations are the same, and only then the two lists of operators
join all values alike. -/
theorem evaluate_insert_blank {q : Query} (h : q.isConsistent = true)
    (hall : ∀ b ∈ q.blocks, b.isUsable = true) (index : Int) :
    ∃ k : Nat, (k : Int) = max 0 (min index q.blocks.length) ∧
      (∀ e, q.compile = .error e → (q.insert index none).compile = .error e) ∧
      (∀ c, q.compile = .ok c → ∃ c', (q.insert index none).compile = .ok c' ∧
        c'.searchFields = c.searchFields ∧
        ∀ selection texts,
          (c'.evaluate selection texts).SameReports (c.evaluate selection texts) ∧
          (c.evaluate selection texts).ok =
            foldValues q.operators (q.valuesOn selection texts) ∧
          (c'.evaluate selection texts).ok = foldValues
            (q.operators.take k ++ .and :: q.operators.drop k) (q.valuesOn selection texts) ∧
          ((∀ o ∈ q.operators.drop k, o = .and) →
            c'.evaluate selection texts = c.evaluate selection texts)) ∧
      ((∀ vs : List Bool, vs.length = q.blocks.length →
          foldValues (q.operators.take k ++ .and :: q.operators.drop k) vs =
            foldValues q.operators vs) ↔
        ∀ o ∈ q.operators.drop k, o = .and) := by
  have hblank : ((none : Option Block).getD q.blankBlock).isUsable = false := rfl
  have hcompile := compile_insert hblank index
  have hlen := isConsistent_iff.mp h
  have hjoin : (∀ vs : List Bool, vs.length = q.blocks.length →
      foldValues (q.operators.take (q.clampIndex index) ++
        .and :: q.operators.drop (q.clampIndex index)) vs = foldValues q.operators vs) ↔
      ∀ o ∈ q.operators.drop (q.clampIndex index), o = .and := by
    cases hn : q.blocks.length with
    | zero =>
      have hops : q.operators = [] := List.eq_nil_of_length_eq_zero (by omega)
      rw [hops]
      refine iff_of_true (fun vs hvs => ?_) (by simp)
      rw [List.eq_nil_of_length_eq_zero hvs]
      rfl
    | succ n =>
      have hops : q.operators.length = n := by omega
      rw [← foldValues_append_cons_drop_iff, hops]
  refine ⟨q.clampIndex index, q.natCast_clampIndex index, ?refused, ?compiled, hjoin⟩
  case refused =>
    intro e he
    rw [hcompile, he]
    rfl
  case compiled =>
    intro c hc
    have hc' : (q.insert index none).compile =
        .ok { c with operators := (q.insert index none).operators } := by
      rw [hcompile, hc]
      rfl
    have hops : c.operators.length = q.operators.length := by rw [(compile_eq_ok hc).1]
    have husable : c.blocks.length = q.blocks.length := by
      have hblocks : q.usableBlocks = q.blocks := List.filter_eq_self.mpr hall
      rw [← (compile_eq_ok hc).2.length_eq, hblocks]
    have hconsistent := isConsistent_iff.mp (isConsistent_insert h index none)
    rw [length_insert_blocks] at hconsistent
    refine ⟨_, hc', rfl, fun selection texts => ?_⟩
    have hsame : (CompiledQuery.evaluate { c with operators := (q.insert index none).operators }
        selection texts).SameReports (c.evaluate selection texts) :=
      evaluate_operators_sameReports (by omega) (by omega) selection texts
    have hok := evaluate_ok_operators hc selection texts
    have hok' := evaluate_insert_ok hblank hc' selection texts
    refine ⟨hsame, hok, hok', fun hand => hsame.eq_of_ok ?_⟩
    have hlength : (q.valuesOn selection texts).length = q.blocks.length := by
      unfold valuesOn
      rw [List.length_map, (compile_eq_ok hc).2.length_eq, husable]
    rw [hok, hok', hjoin.mpr hand _ hlength]

/-- A query whose last operator is an `AND`. -/
def narrowed : Query where
  blocks := [⟨"A", ["alpha"], false, false, newBlockId⟩, ⟨"B", ["beta"], false, false, newBlockId⟩,
    ⟨"C", ["b(e|i)ta"], true, true, newBlockId⟩]
  operators := [.or, .and]

theorem evaluate_insert_blank_narrowed :
    narrowed.isConsistent = true ∧ (∀ b ∈ narrowed.blocks, b.isUsable = true) ∧
    ∃ c c', narrowed.compile = .ok c ∧ (narrowed.insert 1 none).compile = .ok c' ∧
      ∀ selection texts, c'.evaluate selection texts = c.evaluate selection texts := by
  have h : narrowed.isConsistent = true := by decide
  have hall : ∀ b ∈ narrowed.blocks, b.isUsable = true := by decide
  obtain ⟨c, hc⟩ : ∃ c, narrowed.compile = .ok c := ⟨_, rfl⟩
  obtain ⟨k, hk, -, hcompiled, -⟩ := evaluate_insert_blank h hall 1
  have hk1 : k = 1 := by
    have hlen : narrowed.blocks.length = 3 := rfl
    omega
  subst hk1
  obtain ⟨c', hc', -, hsame⟩ := hcompiled c hc
  exact ⟨h, hall, c, c', hc, hc', fun selection texts =>
    (hsame selection texts).2.2.2 (by decide)⟩

/-- Two blocks, one of which is enough. -/
def either : Query where
  blocks := [⟨"A", ["alpha"], false, false, newBlockId⟩, ⟨"B", ["beta"], false, false, newBlockId⟩]
  operators := [.or]

theorem evaluate_insert_blank_either_ne :
    either.isConsistent = true ∧ (∀ b ∈ either.blocks, b.isUsable = true) ∧
    either.compile.map (fun c => (c.evaluate {} (titleOnly "alpha")).ok) = .ok true ∧
    (either.insert 0 none).compile.map (fun c => (c.evaluate {} (titleOnly "alpha")).ok) =
      .ok false := by
  refine ⟨by decide, by decide, by decide, by decide⟩

end Query

end CiteSieve
