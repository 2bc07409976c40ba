import Mathlib.Data.List.Induction
import CiteSieve.Proofs.Query.Edited
import CiteSieve.Query.Default

/-!
# The names of inserted blocks

A block that is inserted without being given is named after the number of blocks that there are
then. No name is looked at, so a name may be in use: a removal lowers the number of blocks, and
leaves the blocks that are numbered higher. What an insertion does to the names is a matter of one
name (`hasUniqueNames_insert_iff`); no number of further insertions repeats a name exactly when no
block is numbered above the number of blocks (`IsNumbered`).

* `isNumbered_insert`, `hasUniqueNames_insert`: what an insertion keeps.
* `forall_prefix_hasUniqueNames_iff`, `hasUniqueNames_run_of_isNumbered`: runs of insertions and
  removals.
* `forall_insert_hasUniqueNames_iff`: which queries all further insertions leave in order.
* `hasUniqueNames_run_remove_insert_iff`: which removals the next insertion collides after.
-/

namespace CiteSieve.Query

/-! ## Numbered names -/

/-- The name of a block that becomes the `n`-th. -/
def numbered (n : Nat) : String :=
  s!"Block {n}"

theorem name_blankBlock (q : Query) : q.blankBlock.name = numbered (q.blocks.length + 1) := rfl

theorem toList_numbered (n : Nat) :
    (numbered n).toList = "Block ".toList ++ Nat.toDigits 10 n := by
  change ("Block " ++ toString n).toList = _
  rw [String.toList_append, Nat.toString_eq_ofList_toDigits]
  exact congrArg ("Block ".toList ++ ·) String.toList_ofList

/-- Numbers are told apart by their digits. -/
theorem numbered_inj {m n : Nat} : numbered m = numbered n ↔ m = n := by
  constructor
  · intro h
    have hlist := congrArg String.toList h
    rw [toList_numbered, toList_numbered, List.append_cancel_left_eq] at hlist
    have hnumber := congrArg (fun ds => Nat.ofDigitChars 10 ds 0) hlist
    simpa [Nat.ofDigitChars_ten_toDigits] using hnumber
  · exact congrArg numbered

/-- No block is numbered above the number of blocks. -/
def IsNumbered (q : Query) : Prop :=
  ∀ n, numbered n ∈ q.blockNames → n ≤ q.blocks.length

theorem hasUniqueNames_iff {q : Query} : q.hasUniqueNames = true ↔ q.blockNames.Nodup :=
  decide_eq_true_iff

/-! ## One edit -/

/-- A block is inserted without being given, or a block is removed. -/
inductive Edit.IsPlain : Edit → Prop
  | insert (index : Int) : IsPlain (.insert index none)
  | remove (index : Int) : IsPlain (.remove index)

section Step

variable {q : Query}

theorem blocks_insert_perm (q : Query) (index : Int) :
    (q.insert index none).blocks.Perm (q.blankBlock :: q.blocks) := by
  rw [insert_blocks, Option.getD_none]
  refine List.perm_middle.trans ?_
  rw [List.take_append_drop]

theorem blockNames_insert_perm (q : Query) (index : Int) :
    (q.insert index none).blockNames.Perm (numbered (q.blocks.length + 1) :: q.blockNames) := by
  rw [← name_blankBlock]
  exact (q.blocks_insert_perm index).map Block.name

theorem length_blocks_insert (q : Query) (index : Int) :
    (q.insert index none).blocks.length = q.blocks.length + 1 :=
  (q.blocks_insert_perm index).length_eq

/-- **An insertion repeats a name** exactly when the number that comes next is in use. -/
theorem hasUniqueNames_insert_iff (q : Query) (index : Int) :
    (q.insert index none).hasUniqueNames = true ↔
      numbered (q.blocks.length + 1) ∉ q.blockNames ∧ q.hasUniqueNames = true := by
  rw [hasUniqueNames_iff, hasUniqueNames_iff, (q.blockNames_insert_perm index).nodup_iff,
    List.nodup_cons]

theorem isNumbered_insert (h : q.IsNumbered) (index : Int) : (q.insert index none).IsNumbered := by
  intro n hn
  rw [(q.blockNames_insert_perm index).mem_iff, List.mem_cons, numbered_inj] at hn
  rw [length_blocks_insert]
  rcases hn with rfl | hn
  · exact Nat.le_refl _
  · exact Nat.le_succ_of_le (h n hn)

theorem hasUniqueNames_insert (h : q.IsNumbered) (hunique : q.hasUniqueNames = true) (index : Int) :
    (q.insert index none).hasUniqueNames = true := by
  refine (q.hasUniqueNames_insert_iff index).mpr ⟨fun hmem => ?_, hunique⟩
  exact absurd (h _ hmem) (Nat.not_succ_le_self _)

/-- Removing takes one block away, or is refused. -/
theorem blocks_step_remove (h : q.isConsistent = true) (index : Int) :
    (q.step (.remove index)).blocks =
      if 0 ≤ index ∧ index < q.blocks.length then q.blocks.eraseIdx index.toNat else q.blocks := by
  unfold step step?
  dsimp only
  rw [remove_eq h]
  split_ifs <;> rfl

theorem blocks_step_remove_sublist (h : q.isConsistent = true) (index : Int) :
    (q.step (.remove index)).blocks.Sublist q.blocks := by
  rw [blocks_step_remove h]
  split_ifs
  · exact List.eraseIdx_sublist ..
  · exact List.Sublist.refl _

theorem hasUniqueNames_step_remove (h : q.isConsistent = true) (hunique : q.hasUniqueNames = true)
    (index : Int) : (q.step (.remove index)).hasUniqueNames = true := by
  rw [hasUniqueNames_iff] at hunique ⊢
  exact hunique.sublist ((blocks_step_remove_sublist h index).map Block.name)

end Step

/-! ## Runs -/

section Run

variable {q : Query} {es : List Edit}

/-- **Every block** was there from the start, or is the blank block of an earlier insertion. -/
theorem mem_blocks_run (hconsistent : q.isConsistent = true) (hes : ∀ e ∈ es, e.IsPlain)
    {b : Block} (hb : b ∈ (q.run es).blocks) : b ∈ q.blocks ∨
      ∃ es₁ index, es₁ ++ [.insert index none] <+: es ∧ b = (q.run es₁).blankBlock := by
  induction es using List.reverseRecOn with
  | nil => exact .inl hb
  | append_singleton es e ih =>
    obtain ⟨hinit, he⟩ := List.forall_mem_append.mp hes
    have hearlier : b ∈ (q.run es).blocks → b ∈ q.blocks ∨ ∃ es₁ index,
        es₁ ++ [.insert index none] <+: es ++ [e] ∧ b = (q.run es₁).blankBlock := by
      intro hb
      refine (ih hinit hb).imp_right ?_
      rintro ⟨es₁, index, hpre, rfl⟩
      exact ⟨es₁, index, hpre.trans (List.prefix_append es [e]), rfl⟩
    rw [run_concat] at hb
    cases he e List.mem_cons_self with
    | insert index =>
      rcases List.mem_cons.mp (((q.run es).blocks_insert_perm index).mem_iff.mp hb) with rfl | hb
      · exact .inr ⟨es, index, List.prefix_refl _, rfl⟩
      · exact hearlier hb
    | remove index =>
      have hsublist := blocks_step_remove_sublist (isConsistent_run hconsistent es) index
      exact hearlier (hsublist.subset hb)

/-- **No name is ever repeated** exactly when every insertion finds its name not in use. -/
theorem forall_prefix_hasUniqueNames_iff (hconsistent : q.isConsistent = true)
    (hunique : q.hasUniqueNames = true) (hes : ∀ e ∈ es, e.IsPlain) :
    (∀ es₁, es₁ <+: es → (q.run es₁).hasUniqueNames = true) ↔
      ∀ es₁ index, es₁ ++ [.insert index none] <+: es →
        numbered ((q.run es₁).blocks.length + 1) ∉ (q.run es₁).blockNames := by
  constructor
  · intro hall es₁ index hpre
    have hnext := hall _ hpre
    rw [run_concat] at hnext
    exact ((hasUniqueNames_insert_iff _ index).mp hnext).1
  · intro hfree es₁
    induction es₁ using List.reverseRecOn with
    | nil => exact fun _ => hunique
    | append_singleton es₁ e ih =>
      intro hpre
      have hprev := ih ((List.prefix_append es₁ [e]).trans hpre)
      rw [run_concat]
      cases hes e (hpre.subset (by simp)) with
      | insert index => exact (hasUniqueNames_insert_iff _ index).mpr ⟨hfree es₁ index hpre, hprev⟩
      | remove index =>
        exact hasUniqueNames_step_remove (isConsistent_run hconsistent es₁) hprev index

/-- **Names stay unique** where no removal leaves a block that is numbered above the number of
blocks. -/
theorem hasUniqueNames_run_of_isNumbered (hconsistent : q.isConsistent = true)
    (hunique : q.hasUniqueNames = true) (hnumbered : q.IsNumbered) (hes : ∀ e ∈ es, e.IsPlain)
    (hremoved : ∀ es₁ index, es₁ ++ [.remove index] <+: es →
      (q.run (es₁ ++ [.remove index])).IsNumbered) :
    (q.run es).hasUniqueNames = true ∧ (q.run es).IsNumbered := by
  induction es using List.reverseRecOn with
  | nil => exact ⟨hunique, hnumbered⟩
  | append_singleton es e ih =>
    obtain ⟨hinit, he⟩ := List.forall_mem_append.mp hes
    have hprev := ih hinit fun es₁ index hpre =>
      hremoved es₁ index (hpre.trans (List.prefix_append es [e]))
    cases he e List.mem_cons_self with
    | insert index =>
      rw [run_concat]
      exact ⟨hasUniqueNames_insert hprev.2 hprev.1 index, isNumbered_insert hprev.2 index⟩
    | remove index =>
      refine ⟨?_, hremoved es index (List.prefix_refl _)⟩
      rw [run_concat]
      exact hasUniqueNames_step_remove (isConsistent_run hconsistent es) hprev.1 index

/-- Insertions raise the number of blocks by one each, and keep all names. -/
theorem run_replicate_insert (q : Query) (m : Nat) :
    (q.run (List.replicate m (.insert 0 none))).blocks.length = q.blocks.length + m ∧
      q.blockNames ⊆ (q.run (List.replicate m (.insert 0 none))).blockNames := by
  induction m with
  | zero => exact ⟨rfl, List.Subset.refl _⟩
  | succ m ih =>
    rw [List.replicate_succ', run_concat]
    refine ⟨?_, fun name hname => ?_⟩
    · refine (length_blocks_insert _ 0).trans ?_
      rw [ih.1, Nat.add_assoc]
    · exact (blockNames_insert_perm _ 0).mem_iff.mpr (List.mem_cons_of_mem _ (ih.2 hname))

/-- **Which queries are in order**: all further insertions leave the names unique exactly when they
are and no block is numbered above the number of blocks. -/
theorem forall_insert_hasUniqueNames_iff (q : Query) :
    (∀ later : List Edit, (∀ e ∈ later, ∃ index, e = .insert index none) →
      (q.run later).hasUniqueNames = true) ↔ q.hasUniqueNames = true ∧ q.IsNumbered := by
  constructor
  · intro hall
    refine ⟨hall [] nofun, fun n hn => Nat.not_lt.mp fun hlt => ?_⟩
    -- The insertion that makes `n` blocks gives the name that is there already.
    have hnext := hall (List.replicate (n - q.blocks.length) (.insert 0 none))
      fun e he => ⟨0, List.eq_of_mem_replicate he⟩
    obtain ⟨m, hm⟩ : ∃ m, n = q.blocks.length + m + 1 := ⟨n - q.blocks.length - 1, by omega⟩
    obtain ⟨hlen, hnames⟩ := q.run_replicate_insert m
    rw [show n - q.blocks.length = m + 1 by omega, List.replicate_succ', run_concat] at hnext
    have hfree := ((hasUniqueNames_insert_iff _ 0).mp hnext).1
    rw [hlen, ← hm] at hfree
    exact hfree (hnames hn)
  · rintro ⟨hunique, hnumbered⟩ later hlater
    induction later generalizing q with
    | nil => exact hunique
    | cons e later ih =>
      obtain ⟨⟨index, rfl⟩, hrest⟩ := List.forall_mem_cons.mp hlater
      exact ih (q.insert index none) (hasUniqueNames_insert hnumbered hunique index)
        (isNumbered_insert hnumbered index) hrest

/-- **Which removals the next insertion collides after**: those that leave a block numbered as many
as there were. -/
theorem hasUniqueNames_run_remove_insert_iff (hconsistent : q.isConsistent = true)
    (hunique : q.hasUniqueNames = true) {i : Int} (hi : 0 ≤ i ∧ i < q.blocks.length) (j : Int) :
    (q.run [.remove i, .insert j none]).hasUniqueNames = true ↔
      ∀ b ∈ q.blocks.eraseIdx i.toNat, b.name ≠ numbered q.blocks.length := by
  have hblocks := blocks_step_remove hconsistent i
  rw [if_pos hi] at hblocks
  have hlen : (q.step (.remove i)).blocks.length + 1 = q.blocks.length := by
    rw [hblocks, List.length_eraseIdx_of_lt (by omega)]
    omega
  have hrun : q.run [.remove i, .insert j none] = (q.step (.remove i)).insert j none := rfl
  have hleft := hasUniqueNames_step_remove hconsistent hunique i
  rw [hrun, hasUniqueNames_insert_iff, hlen, blockNames, hblocks, List.mem_map]
  simp [hleft]

end Run

/-! ## From an empty or the starting query -/

/-- What holds of the queries that editing begins with. -/
structure IsFresh (q : Query) : Prop where
  consistent : q.isConsistent = true
  unique : q.hasUniqueNames = true
  numbered : q.IsNumbered

theorem isFresh_of_eq {q : Query} (h : q = {} ∨ q = starter) : q.IsFresh := by
  rcases h with rfl | rfl
  · exact ⟨rfl, rfl, fun n hn => absurd hn List.not_mem_nil⟩
  · refine ⟨rfl, by decide, fun n hn => ?_⟩
    have hother : ∀ name ∈ starter.blockNames, name.toList.head? ≠ some 'B' := by decide
    refine absurd ?_ (hother _ hn)
    rw [toList_numbered]
    rfl

/-- **The names of inserted blocks.** Blocks are inserted into an empty or the starting query and
removed from it. Every block is from the start, or is named after the number of blocks that there
were when it was inserted. So names are unique at all times exactly when every insertion finds its
name not in use; they are if no removal leaves a block that is numbered above the number of blocks.
Further insertions repeat no name exactly when there is no such block now. An insertion after a
removal repeats one exactly when a block is left that is numbered as many as there were. -/
theorem hasUniqueNames_run {q : Query} (hq : q = {} ∨ q = starter) {es : List Edit}
    (hes : ∀ e ∈ es, e.IsPlain) :
    (∀ b ∈ (q.run es).blocks, b ∈ q.blocks ∨
      ∃ es₁ index, es₁ ++ [.insert index none] <+: es ∧ b = (q.run es₁).blankBlock) ∧
    ((∀ es₁, es₁ <+: es → (q.run es₁).hasUniqueNames = true) ↔
      ∀ es₁ index, es₁ ++ [.insert index none] <+: es →
        numbered ((q.run es₁).blocks.length + 1) ∉ (q.run es₁).blockNames) ∧
    ((∀ es₁ index, es₁ ++ [.remove index] <+: es → (q.run (es₁ ++ [.remove index])).IsNumbered) →
      (q.run es).hasUniqueNames = true) ∧
    ((∀ later : List Edit, (∀ e ∈ later, ∃ index, e = .insert index none) →
        (q.run (es ++ later)).hasUniqueNames = true) ↔
      (q.run es).hasUniqueNames = true ∧ (q.run es).IsNumbered) ∧
    ((q.run es).hasUniqueNames = true → ∀ i j : Int, 0 ≤ i ∧ i < (q.run es).blocks.length →
      ((q.run (es ++ [.remove i, .insert j none])).hasUniqueNames = true ↔
        ∀ b ∈ (q.run es).blocks.eraseIdx i.toNat, b.name ≠ numbered (q.run es).blocks.length)) := by
  obtain ⟨hconsistent, hunique, hnumbered⟩ := isFresh_of_eq hq
  simp only [run_append]
  refine ⟨fun b => mem_blocks_run hconsistent hes, ?_, ?_, ?_, ?_⟩
  · exact forall_prefix_hasUniqueNames_iff hconsistent hunique hes
  · intro hremoved
    refine (hasUniqueNames_run_of_isNumbered hconsistent hunique hnumbered hes ?_).1
    simpa only [run_append] using hremoved
  · exact forall_insert_hasUniqueNames_iff (q.run es)
  · intro hunique i j hi
    exact hasUniqueNames_run_remove_insert_iff (isConsistent_run hconsistent es) hunique hi j

/-- Two blocks in front of the starting ones. -/
def twoInFront : List Edit :=
  [.insert 0 none, .insert 1 none]

theorem hasUniqueNames_run_twoInFront : (∀ e ∈ twoInFront, e.IsPlain) ∧
    (starter.run twoInFront).blockNames = ["Block 4", "Block 5", "Group 1", "Group 2", "Group 3"] ∧
    (starter.run (twoInFront ++ [.remove 1, .insert 0 none])).hasUniqueNames = true ∧
    (starter.run (twoInFront ++ [.remove 0, .insert 0 none])).hasUniqueNames = false := by
  have hes : ∀ e ∈ twoInFront, e.IsPlain :=
    List.forall_mem_cons.mpr ⟨.insert 0, List.forall_mem_singleton.mpr (.insert 1)⟩
  obtain ⟨-, -, -, -, hcollides⟩ := hasUniqueNames_run (.inr rfl) hes
  have hcollides := hcollides (by decide)
  refine ⟨hes, by decide, (hcollides 1 0 (by decide)).mpr (by decide), ?_⟩
  rw [Bool.eq_false_iff, ne_eq, hcollides 0 0 (by decide)]
  decide

/-- The first of two blocks is removed, and its place is filled. -/
def refilled : List Edit :=
  [.insert 0 none, .insert 1 none, .remove 0, .insert 1 none]

/-- Edits that are all carried out, and leave two blocks of one name. -/
theorem refilled_repeats_name : (∀ e ∈ refilled, e.IsPlain) ∧
    (run {} (refilled.take 2)).blockNames = ["Block 1", "Block 2"] ∧
    (run {} (refilled.take 3)).blockNames = ["Block 2"] ∧
    (run {} refilled).blockNames = ["Block 2", "Block 2"] ∧
    (run {} refilled).hasUniqueNames = false := by
  refine ⟨?_, by decide, by decide, by decide, by decide⟩
  simp only [refilled, List.forall_mem_cons]
  exact ⟨.insert 0, .insert 1, .remove 0, .insert 1, nofun⟩

end CiteSieve.Query
