import CiteSieve.Query.Printer

/-!
# What a query is written as

The usable blocks of a query are written in order, and the operator before each but the first is
the one at the position before it in the query (`Query.writtenOperators`). Writing fails at the
first of these that is missing (`Query.toText_eq_elim`); a consistent query has all of them, so it
is always written (`Query.toText_eq`).

* `Query.writtenOperators_of_all`: a property of all operators is one of all written ones.
* `Query.getElem?_writtenOperators`: where the operators come from.
-/

namespace CiteSieve.Query

/-! ## Usable blocks and their positions -/

/-- The usable blocks of a list that begins at position `i`, with their positions. -/
def placesFrom (i : Nat) (bs : List Block) : List (Block × Nat) :=
  (bs.zipIdx i).filter fun p => p.1.isUsable

/-- The usable blocks with their positions. -/
def usablePlaces (q : Query) : List (Block × Nat) :=
  placesFrom 0 q.blocks

theorem placesFrom_cons_of_usable {b : Block} (h : b.isUsable = true) (i : Nat) (bs : List Block) :
    placesFrom i (b :: bs) = (b, i) :: placesFrom (i + 1) bs := by
  unfold placesFrom
  rw [List.zipIdx_cons]
  exact List.filter_cons_of_pos h

theorem placesFrom_cons_of_not_usable {b : Block} (h : b.isUsable = false) (i : Nat)
    (bs : List Block) : placesFrom i (b :: bs) = placesFrom (i + 1) bs := by
  unfold placesFrom
  rw [List.zipIdx_cons]
  exact List.filter_cons_of_neg (by rw [h]; decide)

theorem map_fst_placesFrom (i : Nat) (bs : List Block) :
    (placesFrom i bs).map Prod.fst = bs.filter Block.isUsable := by
  have h := congrArg (List.filter Block.isUsable) (List.zipIdx_map_fst i bs)
  rw [List.filter_map] at h
  exact h

theorem length_usablePlaces (q : Query) : q.usablePlaces.length = q.usableBlocks.length := by
  unfold usableBlocks
  rw [← map_fst_placesFrom 0, List.length_map]
  rfl

theorem mem_placesFrom {i : Nat} {bs : List Block} {p : Block × Nat} (h : p ∈ placesFrom i bs) :
    i ≤ p.2 ∧ p.2 < i + bs.length := by
  have hp := List.mem_zipIdx (List.mem_filter.mp h).1
  omega

/-- Only the first place can be at the first position. -/
theorem mem_tail_placesFrom : ∀ {i : Nat} {bs : List Block} {p : Block × Nat},
    p ∈ (placesFrom i bs).tail → i < p.2 ∧ p.2 < i + bs.length
  | _, [], _, h => absurd h List.not_mem_nil
  | i, b :: bs, p, h => by
    rw [List.length_cons]
    cases hb : b.isUsable with
    | true =>
      rw [placesFrom_cons_of_usable hb] at h
      have hp := mem_placesFrom h
      omega
    | false =>
      rw [placesFrom_cons_of_not_usable hb] at h
      have hp := mem_tail_placesFrom h
      omega

/-! ## Operators -/

/-- The operator that is written before the block at a place. -/
def operatorAt? (operators : List Operator) (p : Block × Nat) : Option Operator :=
  operators[p.2 - 1]?

/-- The operators that are written, in order. -/
def writtenOperators (q : Query) : List Operator :=
  q.usablePlaces.tail.filterMap (operatorAt? q.operators)

/-- The text of a list of blocks joined by operators, in parts. -/
def joinedParts (os : List Operator) (bs : List Block) : List String :=
  (os.zip bs).flatMap fun ob => [ob.1.name, ob.2.toText]

/-- The parts of a text of blocks with the operators between them. -/
def writtenParts (os : List Operator) : List Block → List String
  | [] => []
  | b :: bs => b.toText :: joinedParts os bs

theorem length_eq_of_isConsistent {q : Query} (h : q.isConsistent = true) :
    q.operators.length = q.blocks.length - 1 :=
  beq_iff_eq.mp h

theorem operatorAt?_isSome {q : Query} (h : q.isConsistent = true) {p : Block × Nat}
    (hp : p ∈ q.usablePlaces.tail) : ∃ o, operatorAt? q.operators p = some o := by
  have hlt := mem_tail_placesFrom hp
  have hlen := length_eq_of_isConsistent h
  exact ⟨_, List.getElem?_eq_getElem (by omega)⟩

theorem getElem?_filterMap {α β : Type} {f : α → Option β} : ∀ {as : List α} (k : Nat),
    (∀ a ∈ as, ∃ b, f a = some b) → (as.filterMap f)[k]? = as[k]?.bind f
  | [], _, _ => rfl
  | a :: as, k, h => by
    obtain ⟨b, hb⟩ := h a List.mem_cons_self
    rw [List.filterMap_cons_some hb]
    cases k with
    | zero => exact hb.symm
    | succ k => exact getElem?_filterMap k fun a' ha' => h a' (List.mem_cons_of_mem a ha')

/-- A written operator is the one before its block. -/
theorem getElem?_writtenOperators {q : Query} (h : q.isConsistent = true) (k : Nat) :
    q.writtenOperators[k]? = q.usablePlaces[k + 1]?.bind (operatorAt? q.operators) := by
  unfold writtenOperators
  rw [getElem?_filterMap k fun p hp => operatorAt?_isSome h hp, List.getElem?_tail]

/-- There is one operator between any two blocks that are written. -/
theorem length_writtenOperators {q : Query} (h : q.isConsistent = true) :
    q.writtenOperators.length = q.usableBlocks.length - 1 := by
  unfold writtenOperators
  rw [List.length_filterMap_eq_countP, List.countP_eq_length.mpr, List.length_tail,
    length_usablePlaces]
  intro p hp
  obtain ⟨o, ho⟩ := operatorAt?_isSome h hp
  rw [ho]
  rfl

/-- What holds of all operators holds of those that are written. -/
theorem writtenOperators_of_all {q : Query} {P : Operator → Prop} (h : ∀ o ∈ q.operators, P o) :
    ∀ o ∈ q.writtenOperators, P o := by
  intro o ho
  obtain ⟨p, -, hp⟩ := List.mem_filterMap.mp ho
  exact h o (List.mem_of_getElem? hp)

/-! ## Writing -/

/-- There is no operator to write before the block at a place. -/
def lacksOperator (operators : List Operator) (p : Block × Nat) : Bool :=
  (operatorAt? operators p).isNone

/-- Behind a block that has been written, every usable block comes with its operator; writing ends
at the first that has none. -/
theorem partsFrom_started (os : List Operator) : ∀ (bs : List Block) (i : Nat),
    partsFrom os i true bs = ((placesFrom i bs).find? (lacksOperator os)).elim
      (.ok (joinedParts ((placesFrom i bs).filterMap (operatorAt? os)) (bs.filter Block.isUsable)))
      fun p => .error ⟨p.2 - 1⟩
  | [], _ => rfl
  | b :: bs, i => by
    have ih := partsFrom_started os bs (i + 1)
    unfold partsFrom
    cases hb : b.isUsable with
    | true =>
      rw [placesFrom_cons_of_usable hb, List.filter_cons_of_pos hb]
      simp only [Bool.not_true, Bool.false_eq_true, if_false, if_true]
      cases ho : os[i - 1]? with
      | some o =>
        have hplace : operatorAt? os (b, i) = some o := ho
        rw [List.find?_cons_of_neg (by simp [lacksOperator, hplace]),
          List.filterMap_cons_some hplace, ih]
        cases (placesFrom (i + 1) bs).find? (lacksOperator os) <;> rfl
      | none =>
        have hplace : operatorAt? os (b, i) = none := ho
        rw [List.find?_cons_of_pos (by simp [lacksOperator, hplace])]
        rfl
    | false =>
      rw [placesFrom_cons_of_not_usable hb, List.filter_cons_of_neg (by rw [hb]; decide)]
      simpa using ih

/-- Before anything is written, the first usable block comes without an operator. -/
theorem partsFrom_unstarted (os : List Operator) : ∀ (bs : List Block) (i : Nat),
    partsFrom os i false bs = ((placesFrom i bs).tail.find? (lacksOperator os)).elim
      (.ok (writtenParts ((placesFrom i bs).tail.filterMap (operatorAt? os))
        (bs.filter Block.isUsable)))
      fun p => .error ⟨p.2 - 1⟩
  | [], _ => rfl
  | b :: bs, i => by
    unfold partsFrom
    cases hb : b.isUsable with
    | true =>
      rw [placesFrom_cons_of_usable hb, List.filter_cons_of_pos hb, partsFrom_started,
        List.tail_cons]
      cases (placesFrom (i + 1) bs).find? (lacksOperator os) <;> rfl
    | false =>
      rw [placesFrom_cons_of_not_usable hb, List.filter_cons_of_neg (by rw [hb]; decide)]
      simpa using partsFrom_unstarted os bs (i + 1)

/-- **What writing a query gives**: its usable blocks with the written operators between them, or
the position of the first operator that is missing. -/
theorem toText_eq_elim (q : Query) :
    q.toText = (q.usablePlaces.tail.find? (lacksOperator q.operators)).elim
      (.ok (" ".intercalate (writtenParts q.writtenOperators q.usableBlocks)))
      fun p => .error ⟨p.2 - 1⟩ := by
  unfold toText
  rw [partsFrom_unstarted]
  unfold usablePlaces
  cases h : (placesFrom 0 q.blocks).tail.find? (lacksOperator q.operators) <;> rfl

/-- **A consistent query is always written**: its usable blocks with the written operators between
them. -/
theorem toText_eq {q : Query} (h : q.isConsistent = true) :
    q.toText = .ok (" ".intercalate (writtenParts q.writtenOperators q.usableBlocks)) := by
  have hnone : q.usablePlaces.tail.find? (lacksOperator q.operators) = none := by
    refine List.find?_eq_none.mpr fun p hp => ?_
    obtain ⟨o, ho⟩ := operatorAt?_isSome h hp
    simp [lacksOperator, ho]
  rw [toText_eq_elim, hnone]
  rfl

end CiteSieve.Query
