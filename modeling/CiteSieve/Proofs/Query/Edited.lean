import CiteSieve.Proofs.Query.Saved
import CiteSieve.Proofs.Results
import CiteSieve.Query.Edit
import CiteSieve.Query.Pasted

/-!
# Edited queries stay consistent

What each edit does to the two lists of a query, and that no sequence of edits takes a consistent
query out of step: there is one operator between any two neighbouring blocks before and after. An
edit that is refused leaves the query as it was.

* `Query.Edit`, `Query.step?`, `Query.run`: the edits, what one of them makes of a query, and what
  a sequence of them leaves.
* `Query.isConsistent_step?`, `Query.isConsistent_run`: one step and all steps keep consistency.
* `Query.edits_keep_consistent`: this, and what the edits of blocks and operators change.
-/

namespace CiteSieve

/-! ## Positions -/

theorem insertIdx_eq_append {α : Type} (a : α) : ∀ {i : Nat} {as : List α}, i ≤ as.length →
    as.insertIdx i a = as.take i ++ a :: as.drop i
  | 0, _, _ => rfl
  | i + 1, [], h => absurd h (by simp)
  | i + 1, b :: as, h => by
    rw [List.insertIdx_succ_cons, insertIdx_eq_append a (Nat.le_of_succ_le_succ h)]
    rfl

/-- A position is counted from the start, or from the end where it is negative. -/
theorem position?_eq_some_iff {n : Nat} {index : Int} {k : Nat} :
    position? n index = some k ↔ k < n ∧ (index = k ∨ index = (k : Int) - n) := by
  unfold position?
  by_cases hneg : index < 0
  · by_cases hin : 0 ≤ index + n ∧ index + n < n
    · simp only [if_pos hneg, if_pos hin, Option.some.injEq]
      omega
    · simp only [if_pos hneg, if_neg hin, reduceCtorEq, false_iff]
      omega
  · by_cases hin : 0 ≤ index ∧ index < n
    · simp only [if_neg hneg, if_pos hin, Option.some.injEq]
      omega
    · simp only [if_neg hneg, if_neg hin, reduceCtorEq, false_iff]
      omega

namespace Query

/-- Both are matched against the same fields, with the same regard to case. -/
def SameSettings (q p : Query) : Prop :=
  p.caseInsensitive = q.caseInsensitive ∧ p.searchFields = q.searchFields

theorem isConsistent_iff {q : Query} :
    q.isConsistent = true ↔ q.operators.length = q.blocks.length - 1 :=
  beq_iff_eq

/-! ## Inserting -/

theorem clampIndex_le (q : Query) (index : Int) : q.clampIndex index ≤ q.blocks.length :=
  Nat.min_le_right _ _

theorem natCast_clampIndex (q : Query) (index : Int) :
    (q.clampIndex index : Int) = max 0 (min index q.blocks.length) := by
  unfold clampIndex
  omega

theorem insert_blocks (q : Query) (index : Int) (block : Option Block) :
    (q.insert index block).blocks =
      q.blocks.take (q.clampIndex index) ++ block.getD q.blankBlock ::
        q.blocks.drop (q.clampIndex index) :=
  insertIdx_eq_append _ (q.clampIndex_le index)

theorem insert_operators_of_nil {q : Query} (h : q.blocks = []) (index : Int)
    (block : Option Block) : (q.insert index block).operators = q.operators := by
  unfold insert
  simp only [h, List.isEmpty_nil, if_true]

/-- Behind or before other blocks, a block comes with one `AND`. -/
theorem insert_operators_of_ne_nil {q : Query} (h : q.blocks ≠ []) (index : Int)
    (block : Option Block) :
    ∃ k ≤ q.operators.length, (q.insert index block).operators =
      q.operators.take k ++ .and :: q.operators.drop k := by
  refine ⟨min (q.clampIndex index) q.operators.length, Nat.min_le_right _ _, ?_⟩
  have hne : q.blocks.isEmpty = false := List.isEmpty_eq_false_iff.mpr h
  unfold insert
  simp only [hne, Bool.false_eq_true, if_false]
  exact insertIdx_eq_append _ (Nat.min_le_right _ _)

theorem isConsistent_insert {q : Query} (h : q.isConsistent = true) (index : Int)
    (block : Option Block) : (q.insert index block).isConsistent = true := by
  rw [isConsistent_iff] at h ⊢
  have hblocks := congrArg List.length (q.insert_blocks index block)
  simp only [List.length_append, List.length_cons, List.length_take, List.length_drop] at hblocks
  by_cases hnil : q.blocks = []
  · have hzero : q.blocks.length = 0 := by rw [hnil, List.length_nil]
    rw [insert_operators_of_nil hnil]
    omega
  · obtain ⟨k, hk, hoperators⟩ := insert_operators_of_ne_nil hnil index block
    have hpos := List.length_pos_iff.mpr hnil
    have hlen := congrArg List.length hoperators
    simp only [List.length_append, List.length_cons, List.length_take, List.length_drop] at hlen
    omega

/-! ## Removing -/

/-- The query without the block at `i`, and without the operator that goes with it. -/
def without (q : Query) (i : Nat) : Query :=
  { q with blocks := q.blocks.eraseIdx i, operators := q.operators.eraseIdx (i - 1) }

/-- **Removing from a consistent query** finds the block and the operator, or there is no block at
the position. -/
theorem remove_eq {q : Query} (h : q.isConsistent = true) (index : Int) :
    q.remove index =
      if 0 ≤ index ∧ index < q.blocks.length then .ok (q.without index.toNat)
      else .error (.noBlock index) := by
  rw [isConsistent_iff] at h
  unfold remove without
  by_cases hin : 0 ≤ index ∧ index < q.blocks.length
  · rw [if_pos hin, if_pos hin]
    cases hops : q.operators with
    | nil => rfl
    | cons o os =>
      have hlen := congrArg List.length hops
      rw [List.length_cons] at hlen
      have hlt : index.toNat - 1 < (o :: os).length := by
        rw [List.length_cons]
        omega
      simp only [List.isEmpty_cons, Bool.false_eq_true, if_false, if_pos hlt]
  · rw [if_neg hin, if_neg hin]

/-- Removing is refused exactly where there is no block. -/
theorem remove_eq_error_iff {q : Query} (h : q.isConsistent = true) (index : Int) :
    (∃ e, q.remove index = .error e) ↔ ¬ (0 ≤ index ∧ index < q.blocks.length) := by
  rw [remove_eq h]
  split
  · rename_i hin
    simp [hin]
  · rename_i hin
    simp [hin]

/-- What goes with a block is one operator, if there is any. -/
theorem operators_without {q : Query} (h : q.isConsistent = true) {i : Nat}
    (hi : i < q.blocks.length) :
    (q.operators = [] → (q.without i).operators = []) ∧
      (q.operators ≠ [] → ∃ k < q.operators.length,
        (q.without i).operators = q.operators.eraseIdx k) := by
  rw [isConsistent_iff] at h
  constructor
  · intro hnil
    unfold without
    simp only [hnil, List.eraseIdx_nil]
  · intro hne
    have hpos := List.length_pos_iff.mpr hne
    exact ⟨i - 1, by omega, rfl⟩

theorem isConsistent_without {q : Query} (h : q.isConsistent = true) {i : Nat}
    (hi : i < q.blocks.length) : (q.without i).isConsistent = true := by
  rw [isConsistent_iff] at h ⊢
  unfold without
  dsimp only
  rw [List.length_eraseIdx_of_lt hi]
  by_cases hop : i - 1 < q.operators.length
  · rw [List.length_eraseIdx_of_lt hop]
    omega
  · rw [List.eraseIdx_of_length_le (by omega)]
    omega

theorem isConsistent_remove {q p : Query} (h : q.isConsistent = true) {index : Int}
    (hp : q.remove index = .ok p) : p.isConsistent = true := by
  rw [remove_eq h] at hp
  split at hp
  · rename_i hin
    cases hp
    exact isConsistent_without h (by omega)
  · cases hp

/-! ## Updating and setting -/

/-- **An update** changes the block at a position, and nothing else. -/
theorem update_eq_ok_iff {q p : Query} {index : Int} {changes : List BlockChange} :
    q.update index changes = .ok p ↔
      ∃ k b b', position? q.blocks.length index = some k ∧ q.blocks[k]? = some b ∧
        changes.foldlM Block.change b = .ok b' ∧ p = { q with blocks := q.blocks.set k b' } := by
  unfold update
  constructor
  · intro h
    split at h
    · rename_i k hk
      split at h
      · rename_i b hb
        obtain ⟨b', hb', h⟩ := Except.bind_eq_ok h
        cases h
        exact ⟨k, b, b', hk, hb, hb', rfl⟩
      · cases h
    · cases h
  · rintro ⟨k, b, b', hk, hb, hb', rfl⟩
    simp only [hk, hb, hb']
    rfl

theorem isConsistent_update {q p : Query} (h : q.isConsistent = true) {index : Int}
    {changes : List BlockChange} (hp : q.update index changes = .ok p) :
    p.isConsistent = true := by
  obtain ⟨k, b, b', -, -, -, rfl⟩ := update_eq_ok_iff.mp hp
  rw [isConsistent_iff] at h ⊢
  dsimp only
  rw [List.length_set, h]

/-- **Setting an operator** changes the operator at a position, and nothing else. -/
theorem setOperator_eq_ok_iff {q p : Query} {index : Int} {name : String} :
    q.setOperator index name = .ok p ↔
      ∃ k o, position? q.operators.length index = some k ∧ Operator.ofName? name = some o ∧
        p = { q with operators := q.operators.set k o } := by
  unfold setOperator Operator.ofName
  cases ho : Operator.ofName? name with
  | none => simp
  | some o =>
    cases hk : position? q.operators.length index with
    | none => simp
    | some k => simp [eq_comm]

theorem isConsistent_setOperator {q p : Query} (h : q.isConsistent = true) {index : Int}
    {name : String} (hp : q.setOperator index name = .ok p) : p.isConsistent = true := by
  obtain ⟨k, o, -, -, rfl⟩ := setOperator_eq_ok_iff.mp hp
  rw [isConsistent_iff] at h ⊢
  dsimp only
  rw [List.length_set, h]

/-! ## Pasting and reloading -/

/-- A pasted query has one operator between any two of its blocks. -/
theorem operators_of_parse? {text : String} {g : Pasted.Groups} (h : Pasted.parse? text = some g) :
    g.operators = List.replicate (g.blocks.length - 1) .and := by
  unfold Pasted.parse? at h
  dsimp only at h
  generalize (Pasted.splitTopLevel _ _).mapIdx Pasted.groupBlock = blocks at h
  split at h
  · exact absurd h (by simp)
  · cases h
    rfl

theorem isConsistent_substitute? {q p : Query} {text : String}
    (hp : Pasted.substitute? q text = some p) : p.isConsistent = true := by
  obtain ⟨g, hg, rfl⟩ := Option.map_eq_some_iff.mp hp
  rw [isConsistent_iff]
  dsimp only
  rw [operators_of_parse? hg, List.length_replicate]

/-! ## Runs -/

/-- An edit of a query. -/
inductive Edit where
  | insert (index : Int) (block : Option Block)
  | remove (index : Int)
  | update (index : Int) (changes : List BlockChange)
  | setOperator (index : Int) (name : String)
  /-- Put a pasted query in place of the blocks, if there are groups in it. -/
  | paste (text : String)
  /-- Save the query and load what was saved. -/
  | reload
  deriving DecidableEq, Repr

/-- Why an edit is refused. -/
inductive Refusal where
  | edit (e : EditError)
  | load (e : LoadError)
  deriving DecidableEq, Repr

/-- What an edit makes of a query. -/
def step? (q : Query) : Edit → Except Refusal Query
  | .insert index block => .ok (q.insert index block)
  | .remove index => (q.remove index).mapError .edit
  | .update index changes => (q.update index changes).mapError .edit
  | .setOperator index name => (q.setOperator index name).mapError .edit
  | .paste text => .ok ((Pasted.substitute? q text).getD q)
  | .reload => (load q.save "<string>").mapError .load

/-- What is there after an edit, which may be refused. -/
def step (q : Query) (e : Edit) : Query :=
  match q.step? e with
  | .ok p => p
  | .error _ => q

/-- What is there after a sequence of edits. -/
def run (q : Query) (es : List Edit) : Query :=
  es.foldl step q

/-- **An edit of a consistent query** that is not refused leaves a consistent query. -/
theorem isConsistent_step? {q p : Query} (h : q.isConsistent = true) {e : Edit}
    (hp : q.step? e = .ok p) : p.isConsistent = true := by
  cases e with
  | insert index block =>
    rw [← Except.ok.inj hp]
    exact isConsistent_insert h index block
  | remove index => exact isConsistent_remove h (Except.mapError_eq_ok hp)
  | update index changes => exact isConsistent_update h (Except.mapError_eq_ok hp)
  | setOperator index name => exact isConsistent_setOperator h (Except.mapError_eq_ok hp)
  | paste text =>
    rw [← Except.ok.inj hp]
    cases hs : Pasted.substitute? q text with
    | none => exact h
    | some p => exact isConsistent_substitute? hs
  | reload =>
    have hload := Except.mapError_eq_ok hp
    unfold load at hload
    rw [ofText_save] at hload
    rw [← Except.ok.inj hload]
    exact h

theorem isConsistent_step {q : Query} (h : q.isConsistent = true) (e : Edit) :
    (q.step e).isConsistent = true := by
  unfold step
  cases hp : q.step? e with
  | ok p => exact isConsistent_step? h hp
  | error x => exact h

theorem step_of_error {q : Query} {e : Edit} {x : Refusal} (h : q.step? e = .error x) :
    q.step e = q := by
  unfold step
  rw [h]

theorem run_concat (q : Query) (es : List Edit) (e : Edit) :
    q.run (es ++ [e]) = (q.run es).step e :=
  List.foldl_concat ..

theorem run_append (q : Query) (es es' : List Edit) : q.run (es ++ es') = (q.run es).run es' :=
  List.foldl_append ..

/-- **A run of edits keeps a query consistent.** -/
theorem isConsistent_run {q : Query} (h : q.isConsistent = true) (es : List Edit) :
    (q.run es).isConsistent = true := by
  induction es generalizing q with
  | nil => exact h
  | cons e es ih => exact ih (isConsistent_step h e)

/-- **Edits keep a consistent query consistent.** Whatever is inserted, removed, updated, set,
pasted or reloaded, there is one operator between any two neighbouring blocks, and an edit that is
refused changes nothing. Removing takes away the block at its position and one operator; inserting
puts in the given block at the nearest position and one `AND`; an update and a new operator reach
only what is at their position. -/
theorem edits_keep_consistent {q : Query} (h : q.isConsistent = true) :
    (∀ es : List Edit, (q.run es).isConsistent = true ∧
      ∀ e x, (q.run es).step? e = .error x → q.run (es ++ [e]) = q.run es) ∧
    (∀ index : Int,
      ((∃ e, q.remove index = .error e) ↔ ¬ (0 ≤ index ∧ index < q.blocks.length)) ∧
      (∀ e, q.remove index = .error e → e = .noBlock index) ∧
      ∀ p, q.remove index = .ok p →
        q.SameSettings p ∧ p.blocks = q.blocks.eraseIdx index.toNat ∧
        (q.operators = [] → p.operators = []) ∧
        (q.operators ≠ [] → ∃ k < q.operators.length, p.operators = q.operators.eraseIdx k)) ∧
    (∀ (index : Int) (block : Option Block), ∃ k : Nat,
      (k : Int) = max 0 (min index q.blocks.length) ∧
      q.SameSettings (q.insert index block) ∧
      (q.insert index block).blocks =
        q.blocks.take k ++ block.getD q.blankBlock :: q.blocks.drop k ∧
      (q.blocks = [] → (q.insert index block).operators = q.operators) ∧
      (q.blocks ≠ [] → ∃ m ≤ q.operators.length, (q.insert index block).operators =
        q.operators.take m ++ .and :: q.operators.drop m)) ∧
    (∀ (index : Int) changes p, q.update index changes = .ok p ↔
      ∃ (k : Nat) (b b' : Block), (k < q.blocks.length ∧
          (index = k ∨ index = (k : Int) - q.blocks.length)) ∧
        q.blocks[k]? = some b ∧ changes.foldlM Block.change b = .ok b' ∧
        p = { q with blocks := q.blocks.set k b' }) ∧
    (∀ (index : Int) name p, q.setOperator index name = .ok p ↔
      ∃ (k : Nat) (o : Operator), (k < q.operators.length ∧
          (index = k ∨ index = (k : Int) - q.operators.length)) ∧
        Operator.ofName? name = some o ∧ p = { q with operators := q.operators.set k o }) := by
  refine ⟨?runs, ?removes, ?inserts, ?updates, ?sets⟩
  case runs =>
    intro es
    refine ⟨isConsistent_run h es, fun e x hx => ?_⟩
    rw [run_concat, step_of_error hx]
  case removes =>
    intro index
    refine ⟨remove_eq_error_iff h index, ?_, ?_⟩
    · intro e he
      rw [remove_eq h] at he
      split at he
      · cases he
      · exact (Except.error.inj he).symm
    · intro p hp
      rw [remove_eq h] at hp
      split at hp
      · rename_i hin
        cases hp
        exact ⟨⟨rfl, rfl⟩, rfl, operators_without h (by omega)⟩
      · cases hp
  case inserts =>
    intro index block
    exact ⟨q.clampIndex index, q.natCast_clampIndex index, ⟨rfl, rfl⟩,
      q.insert_blocks index block, fun hnil => insert_operators_of_nil hnil index block,
      fun hne => insert_operators_of_ne_nil hne index block⟩
  case updates =>
    intro index changes p
    rw [update_eq_ok_iff]
    simp only [position?_eq_some_iff]
  case sets =>
    intro index name p
    rw [setOperator_eq_ok_iff]
    simp only [position?_eq_some_iff]

/-- A query of two blocks. -/
def paired : Query where
  blocks := [⟨"A", ["alpha"], false, false, newBlockId⟩, ⟨"B", ["beta"], true, true, newBlockId⟩]
  operators := [.or]

theorem paired_edits_keep_consistent :
    paired.isConsistent = true ∧
      (paired.run [.insert (-3) none, .remove 7, .update (-1) [.exclude false], .reload,
        .setOperator 0 "OR", .paste "x AND y AND z", .remove 2]).isConsistent = true ∧
      paired.remove 2 = .error (.noBlock 2) := by
  have h : paired.isConsistent = true := by decide
  obtain ⟨hruns, hremoves, -⟩ := edits_keep_consistent h
  obtain ⟨hrefused, hreason, -⟩ := hremoves 2
  obtain ⟨e, he⟩ := hrefused.mpr (by decide)
  exact ⟨h, (hruns _).1, hreason e he ▸ he⟩

end Query

end CiteSieve
