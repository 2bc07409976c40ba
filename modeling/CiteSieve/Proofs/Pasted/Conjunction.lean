import CiteSieve.Proofs.Evaluation.Decided
import CiteSieve.Proofs.Pasted.Group
import CiteSieve.Proofs.Query.Edited
import CiteSieve.Proofs.Run.Fallback

/-!
# A pasted query means a conjunction

Whatever was pasted, balanced or not, its groups become blocks of plain, trimmed and usable terms
with an `AND` between any two. A group in which no term is found becomes a block without terms. It
is dropped when the query is compiled, and the operators keep their positions; as all of them are
`AND`, that makes no difference to the other blocks.

* `Groups.IsConjunction`, `isConjunction_of_parse?`: what a pasted query is made of.
* `Groups.IsConjunction.ok_evaluate_into`: the value of such a query, whatever it is put into.
* `parse_means_conjunction`: what a pasted query means.
-/

namespace CiteSieve

/-! ## Blocks of plain terms -/

/-- The block of a group: numbered, of plain terms that are trimmed and usable. -/
structure Block.IsGroup (b : Block) (index : Nat) : Prop where
  named : b.name = s!"Group {index + 1}"
  plain : b.isRegex = false
  terms : ∀ t ∈ b.terms, t ≠ "" ∧ Text.IsTrimmed t.toList ∧ Term.isUsable t = true

namespace Block

variable {b : Block} {index : Nat} (h : b.IsGroup index)

include h

theorem IsGroup.usableTerms : b.usableTerms = b.terms :=
  List.filter_eq_self.mpr fun t ht => (h.terms t ht).2.2

theorem IsGroup.isUsable : b.isUsable = decide (b.terms ≠ []) := by
  rw [Block.isUsable, h.usableTerms]

end Block

/-- The pattern of some term of the block, taken as plain, is found in a selected text that is not
empty. -/
def Block.IsPlainlyFound (b : Block) (caseInsensitive : Bool) (selection : Selection)
    (texts : Field → String) : Prop :=
  ∃ f, selection.selects f = true ∧ texts f ≠ "" ∧ ∃ t ∈ b.terms, ∃ p,
    Term.compile t false caseInsensitive = .ok p ∧ p.hits (texts f) = true

theorem Block.IsGroup.isFoundIn_iff {b : Block} {index : Nat} (h : b.IsGroup index)
    {caseInsensitive : Bool} {selection : Selection} {texts : Field → String} :
    b.isFoundIn caseInsensitive selection texts = true ↔
      b.IsPlainlyFound caseInsensitive selection texts := by
  rw [Block.isFoundIn_iff, h.usableTerms, h.plain]
  simp only [Term.isFound_iff]
  rfl

theorem Block.IsGroup.contributes_iff {b : Block} {index : Nat} (h : b.IsGroup index)
    {caseInsensitive : Bool} {selection : Selection} {texts : Field → String} :
    b.contributes caseInsensitive selection texts = true ↔
      Xor (b.IsPlainlyFound caseInsensitive selection texts) (b.exclude = true) := by
  unfold Block.contributes
  rw [← h.isFoundIn_iff, bne_iff_ne, xor_iff_not_iff, ne_eq, Bool.eq_iff_iff]

namespace Pasted

/-! ## Groups -/

/-- What is left of a term in quotes is trimmed. -/
theorem mem_readTerms {cs t : List Char} (h : t ∈ readTerms cs) : t ≠ [] ∧ Text.IsTrimmed t := by
  obtain ⟨hmem, hne⟩ := List.mem_filter.mp h
  obtain ⟨part, -, rfl⟩ := List.mem_map.mp hmem
  exact ⟨of_decide_eq_true hne, Text.isTrimmed_trimChars _⟩

theorem mem_parseGroup {cs t : List Char} (h : t ∈ (parseGroup cs).2) :
    t ≠ [] ∧ Text.IsTrimmed t := by
  rw [parseGroup_eq] at h
  split at h <;> exact mem_readTerms h

theorem isGroup_groupBlock (index : Nat) (group : List Char) :
    (groupBlock index group).IsGroup index where
  named := rfl
  plain := rfl
  terms := by
    intro t ht
    obtain ⟨cs, hcs, rfl⟩ := List.mem_map.mp ht
    have hterm := mem_parseGroup hcs
    rw [← String.toList_ofList (l := cs)] at hterm
    obtain ⟨hne, htrim⟩ := hterm
    exact ⟨fun h => hne (String.toList_eq_nil_iff.mpr h), htrim, isUsable_of_isTrimmed hne htrim⟩

/-- Numbered blocks of plain terms, of which some block has one, with an `AND` between any two. -/
structure Groups.IsConjunction (g : Groups) : Prop where
  blocks : ∀ (i : Nat) (b : Block), g.blocks[i]? = some b → b.IsGroup i
  operators : g.operators = List.replicate (g.blocks.length - 1) .and
  nonempty : ∃ b ∈ g.blocks, b.terms ≠ []

theorem blocks_of_parse? {text : String} {g : Groups} (h : parse? text = some g) :
    (∃ groups : List (List Char), g.blocks = groups.mapIdx groupBlock) ∧
      ∃ b ∈ g.blocks, b.terms ≠ [] := by
  unfold parse? at h
  dsimp only at h
  generalize splitTopLevel _ _ = groups at h
  split at h
  · exact absurd h (by simp)
  · rename_i hall
    obtain rfl := Option.some.inj h
    exact ⟨⟨groups, rfl⟩, by simpa using hall⟩

/-- **What is pasted**, if a term is found in it, is a conjunction of groups. -/
theorem isConjunction_of_parse? {text : String} {g : Groups} (h : parse? text = some g) :
    g.IsConjunction := by
  obtain ⟨⟨groups, hblocks⟩, hnonempty⟩ := blocks_of_parse? h
  refine ⟨fun i b hb => ?_, Query.operators_of_parse? h, hnonempty⟩
  rw [hblocks, List.getElem?_mapIdx, Option.map_eq_some_iff] at hb
  obtain ⟨group, -, rfl⟩ := hb
  exact isGroup_groupBlock i group

namespace Groups

/-- The query with these blocks and operators in place of its own. -/
def into (g : Groups) (q : Query) : Query :=
  { q with blocks := g.blocks, operators := g.operators }

/-- Without the blocks that have no terms. -/
def withTerms (g : Groups) : Groups :=
  let blocks := g.blocks.filter (·.terms ≠ [])
  ⟨blocks, List.replicate (blocks.length - 1) .and⟩

namespace IsConjunction

variable {g : Groups} (h : g.IsConjunction)

include h

theorem exists_isGroup {b : Block} (hb : b ∈ g.blocks) : ∃ index, b.IsGroup index := by
  obtain ⟨i, hi⟩ := List.mem_iff_getElem?.mp hb
  exact ⟨i, h.blocks i b hi⟩

/-- Of a pasted query the blocks with terms are usable. -/
theorem usableBlocks_into (q : Query) : (g.into q).usableBlocks = g.withTerms.blocks := by
  refine List.filter_congr fun b hb => ?_
  obtain ⟨index, hgroup⟩ := h.exists_isGroup hb
  exact hgroup.isUsable

theorem usableBlocks_withTerms_into (q : Query) :
    (g.withTerms.into q).usableBlocks = g.withTerms.blocks := by
  refine List.filter_eq_self.mpr fun b hb => ?_
  obtain ⟨hmem, hterms⟩ := List.mem_filter.mp hb
  obtain ⟨index, hgroup⟩ := h.exists_isGroup hmem
  rw [hgroup.isUsable, hterms]

theorem exists_compile_of_usableBlocks {q : Query} (hblocks : q.usableBlocks = g.withTerms.blocks) :
    ∃ c, q.compile = .ok c := by
  refine Query.exists_compile fun b hb t _ => ?_
  rw [hblocks] at hb
  obtain ⟨index, hgroup⟩ := h.exists_isGroup (List.mem_filter.mp hb).1
  exact Term.exists_compile (fun hregex => absurd hregex (by simp [hgroup.plain])) q.caseInsensitive

/-- **The value of a pasted query**: all blocks with terms contribute. -/
theorem ok_evaluate_into {q : Query} {c : CompiledQuery} (hc : (g.into q).compile = .ok c)
    (selection : Selection) (texts : Field → String) :
    (c.evaluate selection texts).ok = true ↔ ∀ b ∈ g.blocks, b.terms ≠ [] →
      Xor (b.IsPlainlyFound q.caseInsensitive selection texts) (b.exclude = true) := by
  have hlen : ((g.into q).contributions selection texts).length ≤ g.blocks.length - 1 + 1 := by
    rw [Query.contributions, List.length_map, h.usableBlocks_into q]
    have hle : g.withTerms.blocks.length ≤ g.blocks.length := List.length_filter_le ..
    omega
  rw [CompiledQuery.evaluate_ok_eq hc, show (g.into q).operators = _ from h.operators,
    foldValues_replicate_and hlen, Query.contributions, List.forall_mem_map, h.usableBlocks_into q]
  constructor
  · intro hall b hb hterms
    obtain ⟨index, hgroup⟩ := h.exists_isGroup hb
    exact hgroup.contributes_iff.mp (hall b (List.mem_filter.mpr ⟨hb, decide_eq_true hterms⟩))
  · intro hall b hb
    obtain ⟨hmem, hterms⟩ := List.mem_filter.mp hb
    obtain ⟨index, hgroup⟩ := h.exists_isGroup hmem
    exact hgroup.contributes_iff.mpr (hall b hmem (of_decide_eq_true hterms))

/-- **Blocks without terms have no effect**, wherever they stand. -/
theorem exists_evaluate_withTerms {q : Query} {c : CompiledQuery}
    (hc : (g.into q).compile = .ok c) : ∃ c', (g.withTerms.into q).compile = .ok c' ∧
      ∀ selection texts, c'.evaluate selection texts = c.evaluate selection texts := by
  obtain ⟨c', hc'⟩ := h.exists_compile_of_usableBlocks (h.usableBlocks_withTerms_into q)
  refine ⟨c', hc', fun selection texts => ?_⟩
  unfold CompiledQuery.evaluate
  rw [CompiledQuery.evaluateTexts_of_compile hc, CompiledQuery.evaluateTexts_of_compile hc']
  refine Query.evaluation_congr ?_ ?_ ?_ _
  · rfl
  · rw [h.usableBlocks_withTerms_into, h.usableBlocks_into]
  · have hle : g.withTerms.blocks.length ≤ g.blocks.length := List.length_filter_le ..
    rw [h.usableBlocks_into, show (g.into q).operators = _ from h.operators,
      show (g.withTerms.into q).operators = List.replicate (g.withTerms.blocks.length - 1) .and
        from rfl, List.take_replicate, List.take_replicate]
    congr 1
    omega

end IsConjunction

end Groups

/-- **A pasted query means a conjunction.** It is read as numbered blocks of plain terms with an
`AND` between any two, and put into a query it changes nothing but the blocks and operators. What
comes out can be compiled, and holds exactly when every block that has a term is either found or
excluded, but not both. Blocks without terms have no effect on the evaluation. Where no term is
found in what is pasted, the query is left as it is. -/
theorem parse_means_conjunction (text : String) :
    (∀ g, parse? text = some g → g.IsConjunction ∧ ∀ q : Query,
      substitute? q text = some (g.into q) ∧ q.SameSettings (g.into q) ∧
      ∃ c, (g.into q).compile = .ok c ∧
        (∀ selection texts, (c.evaluate selection texts).ok = true ↔
          ∀ b ∈ g.blocks, b.terms ≠ [] →
            Xor (b.IsPlainlyFound q.caseInsensitive selection texts) (b.exclude = true)) ∧
        ∃ c', (g.withTerms.into q).compile = .ok c' ∧
          ∀ selection texts, c'.evaluate selection texts = c.evaluate selection texts) ∧
    (parse? text = none → ∀ q : Query, (substitute? q text).getD q = q) := by
  refine ⟨fun g hg => ?found, fun hnone q => ?nothing⟩
  case found =>
    have h := isConjunction_of_parse? hg
    refine ⟨h, fun q => ⟨?_, ⟨rfl, rfl⟩, ?_⟩⟩
    · rw [substitute?, hg]
      rfl
    · obtain ⟨c, hc⟩ := h.exists_compile_of_usableBlocks (h.usableBlocks_into q)
      exact ⟨c, hc, fun selection texts => h.ok_evaluate_into hc selection texts,
        h.exists_evaluate_withTerms hc⟩
  case nothing =>
    rw [substitute?, hnone]
    rfl

/-- An empty group between a group of two terms and one that is excluded. -/
def hollowText : String :=
  "(alpha OR \"be*\") AND () AND NOT 'gamma'"

def hollowGroups : Groups where
  blocks := [⟨"Group 1", ["alpha", "be*"], false, false, newBlockId⟩,
    ⟨"Group 2", [], false, false, newBlockId⟩, ⟨"Group 3", ["gamma"], false, true, newBlockId⟩]
  operators := [.and, .and]

theorem parse_means_conjunction_hollow : parse? hollowText = some hollowGroups ∧
    parse? "() AND NOT ''" = none ∧
    (substitute? mixedQuery "() AND NOT ''").getD mixedQuery = mixedQuery ∧
    ∃ c, (hollowGroups.into {}).compile = .ok c ∧
      (c.evaluate {} titledTexts).ok = true ∧
      (c.evaluate { title := false } titledTexts).ok = false := by
  have hparse : parse? hollowText = some hollowGroups := by decide
  have hnone : parse? "() AND NOT ''" = none := by decide
  obtain ⟨h, hq⟩ := (parse_means_conjunction hollowText).1 hollowGroups hparse
  obtain ⟨-, -, c, hc, hok, -⟩ := hq {}
  refine ⟨hparse, hnone, (parse_means_conjunction _).2 hnone mixedQuery, c, hc, ?_, ?_⟩
  · rw [hok]
    have hall : ∀ b ∈ hollowGroups.blocks, b.terms ≠ [] →
        b.contributes true {} titledTexts = true := by decide
    intro b hb hterms
    obtain ⟨index, hgroup⟩ := h.exists_isGroup hb
    exact hgroup.contributes_iff.mp (hall b hb hterms)
  · rw [Bool.eq_false_iff, ne_eq, hok]
    intro hall
    have hfirst := hall _ List.mem_cons_self (by decide)
    rw [← (h.blocks 0 _ rfl).contributes_iff] at hfirst
    exact absurd hfirst (by decide)

end Pasted

end CiteSieve
