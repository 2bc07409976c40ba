import CiteSieve.Proofs.Evaluation.Value
import CiteSieve.Proofs.Query.Written

/-!
# Reading a query as it is evaluated

A query is written with the operators as they stand before its usable blocks, and evaluated with
its first operators, whatever blocks are dropped. The two are the same exactly when every operator
that is used stands before its block among the usable ones as in the query
(`Query.writtenOperators_eq_iff`), and only then is the text of the query, read from the left,
what the query evaluates to.

* `Query.toText_read_iff_evaluate`: what is written, what is evaluated, and when they agree.
* `Query.writtenOperators_of_usable`: they agree when all blocks are usable.
-/

namespace CiteSieve.Query

/-- The operators that join the values of the usable blocks, in order. -/
def foldedOperators (q : Query) : List Operator :=
  q.operators.take (q.usableBlocks.length - 1)

/-- The values of the usable blocks on the selected ones of some texts. -/
def valuesOn (q : Query) (selection : Selection) (texts : Field → String) : List Bool :=
  q.usableBlocks.map fun b =>
    b.holds q.caseInsensitive fun f => if selection.selects f then texts f else ""

theorem length_usableBlocks_le (q : Query) : q.usableBlocks.length ≤ q.blocks.length :=
  List.length_filter_le _ _

theorem length_foldedOperators {q : Query} (h : q.isConsistent = true) :
    q.foldedOperators.length = q.usableBlocks.length - 1 := by
  have hle := q.length_usableBlocks_le
  have hlen := length_eq_of_isConsistent h
  unfold foldedOperators
  rw [List.length_take]
  omega

/-- **Evaluating joins the values of the usable blocks from the left** by the first operators. -/
theorem evaluate_ok {q : Query} {c : CompiledQuery} (h : q.compile = .ok c)
    (selection : Selection) (texts : Field → String) :
    (c.evaluate selection texts).ok = foldValues q.foldedOperators (q.valuesOn selection texts) := by
  have hlen : (q.valuesOn selection texts).length = q.usableBlocks.length := List.length_map _
  unfold CompiledQuery.evaluate foldedOperators
  rw [CompiledQuery.evaluateTexts_of_compile h, evaluation_ok, ← hlen, foldValues_take]
  rfl

/-- The written operators are the folded ones when each stands where it did. -/
theorem writtenOperators_eq_iff {q : Query} (h : q.isConsistent = true) :
    q.writtenOperators = q.foldedOperators ↔
      ∀ k p, q.usablePlaces[k + 1]? = some p → q.operators[p.2 - 1]? = q.operators[k]? := by
  have hfolded : ∀ k, k < q.usableBlocks.length - 1 →
      q.foldedOperators[k]? = q.operators[k]? := fun k hk => List.getElem?_take_of_lt hk
  constructor
  · intro heq k p hp
    have hk : k + 1 < q.usablePlaces.length := (List.getElem?_eq_some_iff.mp hp).1
    rw [length_usablePlaces] at hk
    rw [← hfolded k (by omega), ← heq, getElem?_writtenOperators h, hp]
    rfl
  · intro hall
    refine List.ext_getElem? fun k => ?_
    rw [getElem?_writtenOperators h]
    cases hp : q.usablePlaces[k + 1]? with
    | none =>
      have hk := List.getElem?_eq_none_iff.mp hp
      rw [length_usablePlaces] at hk
      rw [Option.bind_none, List.getElem?_eq_none (by rw [length_foldedOperators h]; omega)]
    | some p =>
      have hk : k + 1 < q.usablePlaces.length := (List.getElem?_eq_some_iff.mp hp).1
      rw [length_usablePlaces] at hk
      rw [Option.bind_some, hfolded k (by omega), ← hall k p hp]
      rfl

/-- Among blocks that are all usable, every operator stands where it did. -/
theorem writtenOperators_of_usable {q : Query} (h : q.isConsistent = true)
    (hall : ∀ b ∈ q.blocks, b.isUsable = true) : q.writtenOperators = q.foldedOperators := by
  refine (writtenOperators_eq_iff h).mpr fun k p hp => ?_
  have hplaces : q.usablePlaces = q.blocks.zipIdx :=
    List.filter_eq_self.mpr fun p hp => hall p.1 (List.fst_mem_of_mem_zipIdx hp)
  rw [hplaces, List.getElem?_zipIdx] at hp
  obtain ⟨b, -, rfl⟩ := Option.map_eq_some_iff.mp hp
  rw [Nat.zero_add, Nat.add_sub_cancel]

/-- Two lists of operators between the usable blocks that join all values alike are the same. -/
theorem writtenOperators_eq_iff_foldValues {q : Query} (h : q.isConsistent = true) :
    q.writtenOperators = q.foldedOperators ↔
      ∀ vs : List Bool, vs.length = q.usableBlocks.length →
        foldValues q.writtenOperators vs = foldValues q.foldedOperators vs := by
  constructor
  · intro heq vs _
    rw [heq]
  · intro hall
    have hw := length_writtenOperators h
    have hf := length_foldedOperators h
    refine foldValues_injective (by rw [hw, hf]) fun vs hvs => ?_
    cases hn : q.usableBlocks.length with
    | zero =>
      rw [hn] at hw hf
      rw [List.eq_nil_of_length_eq_zero hw, List.eq_nil_of_length_eq_zero hf]
    | succ n => exact hall vs (by omega)

/-- **What is written and what is evaluated.** A consistent query is written with the operators
that stand before its usable blocks, and evaluated with its first operators. These are the same
exactly when each operator stands where it did; then reading the text from the left gives the value
that is evaluated, and only then it does so whatever the values of the blocks are. -/
theorem toText_read_iff_evaluate {q : Query} (h : q.isConsistent = true) :
    q.toText = .ok (" ".intercalate (writtenParts q.writtenOperators q.usableBlocks)) ∧
    q.writtenOperators.length = q.usableBlocks.length - 1 ∧
    (∀ k, q.writtenOperators[k]? =
      q.usablePlaces[k + 1]?.bind fun p => q.operators[p.2 - 1]?) ∧
    (∀ c, q.compile = .ok c → ∀ selection texts,
      (c.evaluate selection texts).ok =
        foldValues q.foldedOperators (q.valuesOn selection texts)) ∧
    (q.writtenOperators = q.foldedOperators ↔
      ∀ k p, q.usablePlaces[k + 1]? = some p → q.operators[p.2 - 1]? = q.operators[k]?) ∧
    (q.writtenOperators = q.foldedOperators → ∀ c, q.compile = .ok c → ∀ selection texts,
      (c.evaluate selection texts).ok =
        foldValues q.writtenOperators (q.valuesOn selection texts)) ∧
    (q.writtenOperators = q.foldedOperators ↔
      ∀ vs : List Bool, vs.length = q.usableBlocks.length →
        foldValues q.writtenOperators vs = foldValues q.foldedOperators vs) := by
  refine ⟨toText_eq h, length_writtenOperators h, getElem?_writtenOperators h,
    fun _ hc => evaluate_ok hc, writtenOperators_eq_iff h, ?_,
    writtenOperators_eq_iff_foldValues h⟩
  intro heq c hc selection texts
  rw [heq]
  exact evaluate_ok hc selection texts

/-- A query with a block of no usable term between two others. -/
def spaced : Query where
  blocks := [⟨"A", ["alpha"], false, true, newBlockId⟩, ⟨"B", [" ", ""], false, false, newBlockId⟩,
    ⟨"C", ["beta", "gamma"], false, false, newBlockId⟩]
  operators := [.or, .or]

theorem spaced_read_eq_evaluate :
    spaced.isConsistent = true ∧ spaced.toText = .ok "NOT alpha OR (beta OR gamma)" ∧
    spaced.writtenOperators = spaced.foldedOperators ∧
    ∃ c, spaced.compile = .ok c ∧ ∀ selection texts, (c.evaluate selection texts).ok =
      foldValues spaced.writtenOperators (spaced.valuesOn selection texts) := by
  have hconsistent : spaced.isConsistent = true := by decide
  have heq : spaced.writtenOperators = spaced.foldedOperators := by decide
  obtain ⟨c, hc⟩ : ∃ c, spaced.compile = .ok c := ⟨_, rfl⟩
  obtain ⟨htext, -, -, -, -, hread, -⟩ := toText_read_iff_evaluate hconsistent
  exact ⟨hconsistent, htext.trans (by decide), heq, c, hc, hread heq c hc⟩

/-- A query whose first block has no usable term. -/
def shifted : Query where
  blocks := [⟨"A", [""], false, false, newBlockId⟩, ⟨"B", ["beta"], false, false, newBlockId⟩,
    ⟨"C", ["gamma"], false, false, newBlockId⟩]
  operators := [.or, .and]

/-- A title that holds one word, and nothing else. -/
def titleOnly (title : String) : Field → String
  | .title => title
  | _ => ""

theorem shifted_read_ne_evaluate :
    shifted.isConsistent = true ∧ shifted.toText = .ok "beta AND gamma" ∧
    shifted.writtenOperators = [.and] ∧ shifted.foldedOperators = [.or] ∧
    foldValues shifted.writtenOperators (shifted.valuesOn {} (titleOnly "beta")) = false ∧
    shifted.compile.map (fun c => (c.evaluate {} (titleOnly "beta")).ok) = .ok true := by
  refine ⟨by decide, by decide, by decide, by decide, by decide, by decide⟩

end CiteSieve.Query
