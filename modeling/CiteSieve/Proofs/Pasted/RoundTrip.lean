import CiteSieve.Proofs.Pasted.Group
import CiteSieve.Proofs.Query.Written

/-!
# Pasting what was written

A query that can be pasted is written, and what is written is read back as its blocks
(`parse_toText`): the groups in order with their terms and whether they are excluded, under names
of their own.
-/

namespace CiteSieve.Pasted

/-! ## The text of a query -/

theorem usableTerms_eq {b : Block} (h : ∀ t ∈ b.terms, IsTerm t.toList) :
    b.usableTerms = b.terms := by
  refine List.filter_eq_self.mpr fun t ht => ?_
  obtain ⟨hne, htrim, -, -⟩ := (h t ht).tidy
  exact isUsable_of_isTrimmed hne htrim

theorem toList_printTerm (t : String) : (printTerm t).toList = termChars t.toList := by
  unfold printTerm termChars
  by_cases h : ' ' ∈ t.toList
  · rw [if_pos (List.contains_iff_mem.mpr h), if_pos h, String.toList_append, String.toList_append]
    rfl
  · rw [if_neg fun hc => h (List.contains_iff_mem.mp hc), if_neg h]

/-- The characters of a block all of whose terms are written. -/
def blockChars (b : Block) : List Char :=
  groupChars b.exclude (b.terms.map String.toList)

theorem toList_blockText {b : Block} (h : ∀ t ∈ b.terms, IsTerm t.toList) :
    b.toText.toList = blockChars b := by
  have hterms : (" OR ".intercalate (b.terms.map printTerm)).toList =
      termsChars (b.terms.map String.toList) := by
    unfold termsChars
    rw [String.toList_intercalate, List.map_map, List.map_map]
    exact congrArg _ (List.map_congr_left fun t _ => toList_printTerm t)
  unfold Block.toText blockChars groupChars enclosedChars
  rw [usableTerms_eq h, List.length_map]
  dsimp only
  split <;> split <;> simp only [String.toList_append, hterms] <;> rfl

/-- The characters of blocks that `AND` joins. -/
theorem toList_writtenParts : ∀ (os : List Operator) (bs : List Block), (∀ o ∈ os, o = .and) →
    os.length = bs.length - 1 →
    (" ".intercalate (Query.writtenParts os bs)).toList =
      (separator "AND".toList).intercalate (bs.map fun b => b.toText.toList)
  | _, [], _, _ => rfl
  | [], [b], _, _ => by
    rw [List.map_cons, List.map_nil, List.intercalate_singleton]
    exact congrArg String.toList String.intercalate_singleton
  | o :: os, b :: c :: bs, hand, hlen => by
    have ih := toList_writtenParts os (c :: bs) (fun o' ho' => hand o' (List.mem_cons_of_mem o ho'))
      (Nat.succ.inj hlen)
    rw [List.map_cons] at ih
    have ho := hand o List.mem_cons_self
    have hparts : Query.writtenParts (o :: os) (b :: c :: bs) =
        b.toText :: "AND" :: c.toText :: Query.joinedParts os bs := by
      rw [ho]
      rfl
    rw [hparts, String.intercalate_cons_cons, String.intercalate_cons_cons,
      show c.toText :: Query.joinedParts os bs = Query.writtenParts os (c :: bs) from rfl,
      List.map_cons, List.map_cons, List.intercalate_cons_cons, ← ih]
    simp only [String.toList_append, List.append_assoc]
    rfl

/-- A query that can be pasted is written, as its blocks joined by `AND`. -/
theorem toText_of_isPasteable {q : Query} (h : IsPasteable q) :
    ∃ text, q.toText = .ok text ∧
      text.toList = (separator "AND".toList).intercalate (q.blocks.map blockChars) := by
  refine ⟨_, Query.toText_eq h.consistent, ?_⟩
  rw [toList_writtenParts q.writtenOperators q.usableBlocks
    (Query.writtenOperators_of_all h.operators) (Query.length_writtenOperators h.consistent)]
  have husable : q.usableBlocks = q.blocks := List.filter_eq_self.mpr fun b hb => by
    unfold Block.isUsable
    rw [usableTerms_eq (h.terms b hb)]
    exact decide_eq_true (h.terms_ne_nil b hb)
  rw [husable, List.map_congr_left fun b hb => toList_blockText (h.terms b hb)]

/-! ## Reading it back -/

section Block

variable {b : Block} (hne : b.terms ≠ []) (h : ∀ t ∈ b.terms, IsTerm t.toList)

include h in
theorem isTerm_toList : ∀ cs ∈ b.terms.map String.toList, IsTerm cs := by
  intro cs hcs
  obtain ⟨t, ht, rfl⟩ := List.mem_map.mp hcs
  exact h t ht

include hne h

theorem isPart_block : IsPart "AND".toList (blockChars b) :=
  isPart_group b.exclude (by simpa using hne) (isTerm_toList h)

theorem groupBlock_blockChars (index : Nat) : groupBlock index (blockChars b) =
    { name := s!"Group {index + 1}", terms := b.terms, exclude := b.exclude } := by
  have hback : (b.terms.map String.toList).map String.ofList = b.terms := by
    rw [List.map_map]
    exact (List.map_congr_left fun t _ => String.ofList_toList).trans (List.map_id b.terms)
  unfold groupBlock blockChars
  rw [parseGroup_groupChars b.exclude (by simpa using hne) (isTerm_toList h)]
  dsimp only
  rw [hback]

end Block

/-- A text of blocks joined by `AND` is split into the texts of the blocks. -/
theorem splitTopLevel_toText {text : String} {bs : List Block} (hbs : bs ≠ [])
    (hne : ∀ b ∈ bs, b.terms ≠ []) (h : ∀ b ∈ bs, ∀ t ∈ b.terms, IsTerm t.toList)
    (htext : text.toList = (separator "AND".toList).intercalate (bs.map blockChars)) :
    splitTopLevel (Text.collapse text).toList "AND".toList = bs.map blockChars := by
  have hparts : ∀ p ∈ bs.map blockChars, IsPart "AND".toList p := by
    intro p hp
    obtain ⟨b, hb, rfl⟩ := List.mem_map.mp hp
    exact isPart_block (hne b hb) (h b hb)
  have hmap : bs.map blockChars ≠ [] := by simpa using hbs
  have htidy : Text.IsTidy text.toList := by
    rw [htext]
    exact tidy_intercalate isWord_and hmap fun p hp => (hparts p hp).tidy
  rw [Text.collapse_eq_self htidy, htext, splitTopLevel_intercalate isWord_and hparts]

/-- **A query that can be pasted is read back from its text**: its groups with their terms, in
order, joined by `AND`. -/
theorem parse_toText {q : Query} (h : IsPasteable q) :
    ∃ text, q.toText = .ok text ∧
      parse? text = some {
        blocks := q.blocks.mapIdx fun i b =>
          { name := s!"Group {i + 1}", terms := b.terms, isRegex := false, exclude := b.exclude,
            id := newBlockId }
        operators := List.replicate (q.blocks.length - 1) .and } := by
  obtain ⟨text, htext, hchars⟩ := toText_of_isPasteable h
  refine ⟨text, htext, ?_⟩
  have hblocks : (q.blocks.map blockChars).mapIdx groupBlock = q.blocks.mapIdx fun i b =>
      { name := s!"Group {i + 1}", terms := b.terms, exclude := b.exclude } := by
    refine List.ext_getElem (by simp) fun i hi _ => ?_
    rw [List.getElem_mapIdx, List.getElem_mapIdx, List.getElem_map]
    have hb := List.getElem_mem (by simpa using hi : i < q.blocks.length)
    exact groupBlock_blockChars (h.terms_ne_nil _ hb) (h.terms _ hb) i
  unfold parse?
  rw [splitTopLevel_toText h.blocks_ne_nil h.terms_ne_nil h.terms hchars]
  dsimp only
  rw [hblocks, List.length_mapIdx]
  refine if_neg fun hall => ?_
  obtain ⟨b, bs, hb⟩ := List.exists_cons_of_ne_nil h.blocks_ne_nil
  rw [hb, List.mapIdx_cons] at hall
  have hempty := List.all_eq_true.mp hall _ List.mem_cons_self
  exact h.terms_ne_nil b (by rw [hb]; exact List.mem_cons_self) (List.isEmpty_iff.mp hempty)

/-- A query whose quoted terms hold what operators, parentheses and quotes look like, and whose
other terms begin like operators. -/
def knotty : Query where
  blocks := [
    { name := "A", terms := ["it's (AND", "androids", "an", "x) OR (y"], isRegex := true },
    { name := "B", terms := ["NOT"], exclude := true },
    { name := "C", terms := ["“a” ‘b’"] },
    { name := "D", terms := ["nota", "or-else"], exclude := true }]
  operators := [.and, .and, .and]

theorem parse_toText_knotty :
    knotty.toText = .ok ("(\"it's (AND\" OR androids OR an OR \"x) OR (y\") AND NOT NOT AND " ++
      "\"“a” ‘b’\" AND NOT (nota OR or-else)") ∧
    ∃ text, knotty.toText = .ok text ∧ parse? text = some {
      blocks := [
        ⟨"Group 1", ["it's (AND", "androids", "an", "x) OR (y"], false, false, newBlockId⟩,
        ⟨"Group 2", ["NOT"], false, true, newBlockId⟩,
        ⟨"Group 3", ["“a” ‘b’"], false, false, newBlockId⟩,
        ⟨"Group 4", ["nota", "or-else"], false, true, newBlockId⟩]
      operators := [.and, .and, .and] } :=
  ⟨by decide, parse_toText (by decide)⟩

end CiteSieve.Pasted
