import CiteSieve.Proofs.Evaluation.Decided
import CiteSieve.Proofs.Run.Classified

/-!
# Looking for more

Values are joined by `and` and `or` alone, so what comes out grows with each of them. A term that is
added to a usable block leaves all blocks at their places, and the operators between them; it can
only make its block found. So can fields that are selected besides others.

* `foldValues_mono`: joined values grow with the values.
* `Query.addTerm`, `Selection.IsWithin`: a query with one more term, a selection within another.
* `Query.usableBlocks_addTerm`: one more term leaves the usable blocks where they are.
* `Run.ofRecords_mono`: what one more term, or more fields, do to the value of a query, and to what
  a run matches.
-/

namespace CiteSieve

/-! ## Values that grow -/

theorem Operator.apply_mono (o : Operator) {v v' w w' : Bool} (hv : v ≤ v') (hw : w ≤ w') :
    o.apply v w ≤ o.apply v' w' := by
  intro h
  cases o with
  | and => exact Bool.and_eq_true_iff.mpr ((Bool.and_eq_true_iff.mp h).imp hv hw)
  | or => exact Bool.or_eq_true_iff.mpr ((Bool.or_eq_true_iff.mp h).imp hv hw)

/-- **What is joined grows with each value.** -/
theorem foldValues_mono : ∀ (os : List Operator) {vs ws : List Bool},
    List.Forall₂ (· ≤ ·) vs ws → foldValues os vs ≤ foldValues os ws
  | _, [], [], .nil => id
  | [], _ :: _, _ :: _, .cons hv _ => hv
  | _ :: _, [_], [_], .cons hv .nil => hv
  | o :: os, _ :: _ :: _, _ :: _ :: _, .cons hv (.cons hw h) => by
    rw [foldValues_cons, foldValues_cons]
    exact foldValues_mono os (.cons (o.apply_mono hv hw) h)

/-! ## More to look for -/

/-- Every field of the first selection is selected by the second. -/
def Selection.IsWithin (s s' : Selection) : Prop :=
  ∀ f, s.selects f = true → s'.selects f = true

/-- **A block with more terms**, looked for in more fields, is found where it was found before. -/
theorem Block.isFoundIn_mono (b b' : Block) (hregex : b'.isRegex = b.isRegex)
    (hterms : b.usableTerms ⊆ b'.usableTerms) {s s' : Selection} (hs : s.IsWithin s') (ci : Bool)
    (texts : Field → String) : b.isFoundIn ci s texts ≤ b'.isFoundIn ci s' texts := by
  intro hfound
  obtain ⟨f, hf, htext, t, ht, hmatch⟩ := Block.isFoundIn_iff.mp hfound
  exact Block.isFoundIn_iff.mpr ⟨f, hs f hf, htext, t, hterms ht, by rwa [hregex]⟩

/-- What it contributes grows with that if it is not excluded, and shrinks if it is. -/
theorem Block.contributes_mono (b b' : Block) (hexclude : b'.exclude = b.exclude)
    {s s' : Selection} {ci : Bool} {texts : Field → String}
    (hfound : b.isFoundIn ci s texts ≤ b'.isFoundIn ci s' texts) :
    (b.exclude = false → b.contributes ci s texts ≤ b'.contributes ci s' texts) ∧
      (b.exclude = true → b'.contributes ci s' texts ≤ b.contributes ci s texts) := by
  unfold Block.contributes
  rw [hexclude]
  constructor
  · intro hincluded
    rw [hincluded, Bool.bne_false, Bool.bne_false]
    exact hfound
  · intro hexcluded hnot
    rw [hexcluded, Bool.bne_true, Bool.not_eq_true', Bool.eq_false_iff] at hnot ⊢
    exact fun htrue => hnot (hfound htrue)

/-! ## One more term -/

/-- The block with the term put in at position `j` of its terms, or at the end. -/
def Block.addTerm (b : Block) (j : Nat) (t : String) : Block :=
  { b with terms := b.terms.take j ++ t :: b.terms.drop j }

/-- The query with the term put in at position `j` of the terms of its block at position `i`. -/
def Query.addTerm (q : Query) (i j : Nat) (t : String) : Query :=
  { q with blocks := q.blocks.modify i fun b => b.addTerm j t }

section AddTerm

variable {b : Block} {t : String}

theorem Block.mem_usableTerms_addTerm (ht : Term.isUsable t = true) (j : Nat) {u : String} :
    u ∈ (b.addTerm j t).usableTerms ↔ u = t ∨ u ∈ b.usableTerms := by
  have hterms : u ∈ (b.addTerm j t).terms ↔ u = t ∨ u ∈ b.terms := by
    rw [Block.addTerm, List.mem_append, List.mem_cons, or_left_comm, ← List.mem_append,
      List.take_append_drop]
  unfold Block.usableTerms
  rw [List.mem_filter, List.mem_filter, hterms, or_and_right]
  exact or_congr_left (and_iff_left_of_imp fun hu => hu ▸ ht)

theorem Block.isUsable_addTerm (ht : Term.isUsable t = true) (j : Nat) :
    (b.addTerm j t).isUsable = true :=
  decide_eq_true (List.ne_nil_of_mem ((Block.mem_usableTerms_addTerm ht j).mpr (.inl rfl)))

variable {q : Query} {i : Nat}

/-- **The usable blocks stay where they are**: only the block that has one more term is another. -/
theorem Query.usableBlocks_addTerm (hb : q.blocks[i]? = some b) (husable : b.isUsable = true)
    (ht : Term.isUsable t = true) (j : Nat) : ∃ before behind,
      q.usableBlocks = before ++ b :: behind ∧
        (q.addTerm i j t).usableBlocks = before ++ b.addTerm j t :: behind := by
  obtain ⟨hi, rfl⟩ := List.getElem?_eq_some_iff.mp hb
  refine ⟨(q.blocks.take i).filter Block.isUsable, (q.blocks.drop (i + 1)).filter Block.isUsable,
    ?_, ?_⟩
  · have hblocks : q.blocks = q.blocks.take i ++ q.blocks[i] :: q.blocks.drop (i + 1) := by
      rw [← List.drop_eq_getElem_cons hi, List.take_append_drop]
    rw [Query.usableBlocks]
    conv_lhs => rw [hblocks]
    rw [List.filter_append, List.filter_cons_of_pos husable]
  · rw [Query.usableBlocks, Query.addTerm, List.modify_eq_take_cons_drop hi, List.filter_append,
      List.filter_cons_of_pos (Block.isUsable_addTerm ht j)]

/-- The terms have patterns as before, if the new one has. -/
theorem Query.hasPatterns_addTerm_iff (hb : q.blocks[i]? = some b) (husable : b.isUsable = true)
    (ht : Term.isUsable t = true) (j : Nat) : (q.addTerm i j t).HasPatterns ↔
      q.HasPatterns ∧ ∃ p, Term.compile t b.isRegex q.caseInsensitive = .ok p := by
  obtain ⟨before, behind, hblocks, hblocks'⟩ := Query.usableBlocks_addTerm hb husable ht j
  have hterms : (∀ u ∈ (b.addTerm j t).usableTerms,
      ∃ p, Term.compile u b.isRegex q.caseInsensitive = .ok p) ↔
      (∃ p, Term.compile t b.isRegex q.caseInsensitive = .ok p) ∧
        ∀ u ∈ b.usableTerms, ∃ p, Term.compile u b.isRegex q.caseInsensitive = .ok p := by
    simp only [Block.mem_usableTerms_addTerm ht, forall_eq_or_imp]
  unfold Query.HasPatterns
  rw [hblocks, hblocks', List.forall_mem_append, List.forall_mem_append, List.forall_mem_cons,
    List.forall_mem_cons]
  show (_ ∧ (∀ u ∈ (b.addTerm j t).usableTerms,
    ∃ p, Term.compile u b.isRegex q.caseInsensitive = .ok p) ∧ _) ↔ _
  rw [hterms]
  tauto

/-- The contributions of all blocks compare as the one that has one more term does. -/
theorem Query.contributions_addTerm (hb : q.blocks[i]? = some b) (husable : b.isUsable = true)
    (ht : Term.isUsable t = true) (j : Nat) {s : Selection} {texts : Field → String}
    {R : Bool → Bool → Prop} (hrefl : ∀ v, R v v)
    (h : R (b.contributes q.caseInsensitive s texts)
      ((b.addTerm j t).contributes q.caseInsensitive s texts)) :
    List.Forall₂ R (q.contributions s texts) ((q.addTerm i j t).contributions s texts) := by
  obtain ⟨before, behind, hblocks, hblocks'⟩ := Query.usableBlocks_addTerm hb husable ht j
  have hsame : ∀ vs, List.Forall₂ R vs vs := fun vs => List.forall₂_same.mpr fun v _ => hrefl v
  unfold Query.contributions
  rw [hblocks, hblocks', List.map_append, List.map_append, List.map_cons, List.map_cons]
  exact List.rel_append (hsame _) (.cons h (hsame _))

end AddTerm

/-! ## Values of queries -/

/-- The value of a query grows with what its blocks contribute. -/
theorem CompiledQuery.evaluate_ok_mono {q q' : Query} {c c' : CompiledQuery}
    (hc : q.compile = .ok c) (hc' : q'.compile = .ok c') (hops : q'.operators = q.operators)
    {s s' : Selection} {texts : Field → String}
    (h : List.Forall₂ (· ≤ ·) (q.contributions s texts) (q'.contributions s' texts)) :
    (c.evaluate s texts).ok ≤ (c'.evaluate s' texts).ok := by
  rw [CompiledQuery.evaluate_ok_eq hc, CompiledQuery.evaluate_ok_eq hc', hops]
  exact foldValues_mono q.operators h

/-- **One more term** of a block that is not excluded makes no value false, and one of an excluded
block makes none true. -/
theorem CompiledQuery.evaluate_addTerm {q : Query} {i : Nat} {b : Block} {t : String}
    (hb : q.blocks[i]? = some b) (husable : b.isUsable = true) (ht : Term.isUsable t = true)
    {j : Nat} {c c' : CompiledQuery} (hc : q.compile = .ok c)
    (hc' : (q.addTerm i j t).compile = .ok c') (s : Selection) (texts : Field → String) :
    (b.exclude = false → (c.evaluate s texts).ok ≤ (c'.evaluate s texts).ok) ∧
      (b.exclude = true → (c'.evaluate s texts).ok ≤ (c.evaluate s texts).ok) := by
  have hterms : b.usableTerms ⊆ (b.addTerm j t).usableTerms :=
    fun u hu => (Block.mem_usableTerms_addTerm ht j).mpr (.inr hu)
  have hfound : b.isFoundIn q.caseInsensitive s texts ≤
      (b.addTerm j t).isFoundIn q.caseInsensitive s texts :=
    Block.isFoundIn_mono b (b.addTerm j t) rfl hterms (fun _ hf => hf) q.caseInsensitive texts
  obtain ⟨hincluded, hexcluded⟩ := Block.contributes_mono b (b.addTerm j t) rfl hfound
  constructor
  · intro hexclude
    refine CompiledQuery.evaluate_ok_mono hc hc' rfl ?_
    exact Query.contributions_addTerm hb husable ht j (fun _ => id) (hincluded hexclude)
  · intro hexclude
    refine CompiledQuery.evaluate_ok_mono hc' hc rfl (List.Forall₂.flip ?_)
    exact Query.contributions_addTerm hb husable ht j (R := fun v w => w ≤ v) (fun _ => id)
      (hexcluded hexclude)

/-- Without excluded blocks, the contributions grow with the selection. -/
theorem Query.contributions_mono {q : Query} (hincluded : ∀ b ∈ q.blocks, b.exclude = false)
    {s s' : Selection} (hs : s.IsWithin s') (texts : Field → String) :
    List.Forall₂ (· ≤ ·) (q.contributions s texts) (q.contributions s' texts) := by
  unfold Query.contributions
  rw [List.forall₂_map_left_iff, List.forall₂_map_right_iff, List.forall₂_same]
  intro b hb
  refine (Block.contributes_mono b b rfl ?_).1 (hincluded b (List.mem_filter.mp hb).1)
  exact Block.isFoundIn_mono b b rfl (List.Subset.refl _) hs q.caseInsensitive texts

/-! ## Runs -/

theorem Record.isEligible_mono {s s' : Selection} (hs : s.IsWithin s') (x : Record) :
    x.isEligible s ≤ x.isEligible s' := by
  intro h
  obtain ⟨f, hf, htext⟩ := Record.isEligible_iff.mp h
  exact Record.isEligible_iff.mpr ⟨f, hs f hf, htext⟩

namespace Run

/-- Without excluded blocks, a run over more fields matches at least the same records. -/
theorem matched_ofRecords_mono {q : Query} (hincluded : ∀ b ∈ q.blocks, b.exclude = false)
    {s s' : Selection} (hs : s.IsWithin s') {rs : List Record} {r : Run}
    (hr : ofRecords { q with searchFields := s } rs = .ok r) :
    ∃ r', ofRecords { q with searchFields := s' } rs = .ok r' ∧
      (r.recordsOf .matched).Sublist (r'.recordsOf .matched) := by
  obtain ⟨c, hc, rfl⟩ := ofRecords_eq_ok hr
  -- The patterns are those of the terms, whichever fields are selected.
  have hpatterns : Query.HasPatterns { q with searchFields := s } :=
    Query.exists_compile_iff.mp ⟨c, hc⟩
  obtain ⟨c', hc'⟩ := Query.exists_compile (q := { q with searchFields := s' }) hpatterns
  refine ⟨ofCompiled { q with searchFields := s' } c' rs, by rw [ofRecords_eq, hc']; rfl, ?_⟩
  rw [recordsOf_ofCompiled hc, recordsOf_ofCompiled hc']
  refine List.monotone_filter_right rs fun x hx => ?_
  simp only [Bool.and_eq_true, decide_eq_true_eq, Evaluation.outcome_eq_matched_iff] at hx ⊢
  exact ⟨x.isEligible_mono hs hx.1, CompiledQuery.evaluate_ok_mono hc hc' rfl
    (Query.contributions_mono hincluded hs x.text) hx.2⟩

/-- **Looking for more loses no match.** A usable term that is added to a usable block, in whatever
place, makes the value of a query on no document false if the block is not excluded, and true on
none if it is; the query is there as before, if the new term has a pattern. Where no block is
excluded, selecting more fields makes no value false; and a run over more fields matches the records
that it matched before, in order and as often, besides others. -/
theorem ofRecords_mono (q : Query) :
    (∀ (i j : Nat) (b : Block) (t : String), q.blocks[i]? = some b → b.isUsable = true →
      Term.isUsable t = true → ∀ c, q.compile = .ok c →
        ((∃ c', (q.addTerm i j t).compile = .ok c') ↔
          ∃ p, Term.compile t b.isRegex q.caseInsensitive = .ok p) ∧
        ∀ c', (q.addTerm i j t).compile = .ok c' → ∀ (s : Selection) (texts : Field → String),
          (b.exclude = false → (c.evaluate s texts).ok = true →
            (c'.evaluate s texts).ok = true) ∧
          (b.exclude = true → (c.evaluate s texts).ok = false →
            (c'.evaluate s texts).ok = false)) ∧
    ((∀ b ∈ q.blocks, b.exclude = false) → ∀ s s' : Selection, s.IsWithin s' →
      (∀ c, q.compile = .ok c → ∀ texts : Field → String,
        (c.evaluate s texts).ok = true → (c.evaluate s' texts).ok = true) ∧
      ∀ (rs : List Record) (r : Run), ofRecords { q with searchFields := s } rs = .ok r →
        ∃ r', ofRecords { q with searchFields := s' } rs = .ok r' ∧
          (r.recordsOf .matched).Sublist (r'.recordsOf .matched)) := by
  constructor
  · intro i j b t hb husable ht c hc
    constructor
    · rw [Query.exists_compile_iff, Query.hasPatterns_addTerm_iff hb husable ht]
      exact and_iff_right (Query.exists_compile_iff.mp ⟨c, hc⟩)
    · intro c' hc' s texts
      obtain ⟨hincluded, hexcluded⟩ :=
        CompiledQuery.evaluate_addTerm hb husable ht hc hc' s texts
      refine ⟨hincluded, fun hexclude hfalse => ?_⟩
      rw [Bool.eq_false_iff] at hfalse ⊢
      exact fun htrue => hfalse (hexcluded hexclude htrue)
  · intro hincluded s s' hs
    exact ⟨fun c hc texts =>
      CompiledQuery.evaluate_ok_mono hc hc rfl (Query.contributions_mono hincluded hs texts),
      fun rs r hr => matched_ofRecords_mono hincluded hs hr⟩

/-- Either of two words. -/
def eitherWord : Query where
  blocks := [⟨"A", ["alpha"], false, false, newBlockId⟩, ⟨"B", ["beta"], false, false, newBlockId⟩]
  operators := [.or]

theorem ofRecords_mono_surveyed :
    (∃ c c', survey.compile = .ok c ∧ (survey.addTerm 0 1 "gamma").compile = .ok c' ∧
      (c.evaluate {} titledTexts).ok = true ∧ (c'.evaluate {} titledTexts).ok = true) ∧
    (∃ c c', survey.compile = .ok c ∧ (survey.addTerm 2 0 "epsi*").compile = .ok c' ∧
      (c.evaluate { title := false } titledTexts).ok = false ∧
        (c'.evaluate { title := false } titledTexts).ok = false) ∧
    ∃ r r', ofRecords { eitherWord with searchFields := { title := false } } surveyed = .ok r ∧
      ofRecords eitherWord surveyed = .ok r' ∧
      (r.recordsOf .matched).Sublist (r'.recordsOf .matched) ∧
      (r.recordsOf .matched).map Record.citeKey = ["both"] ∧
      (r'.recordsOf .matched).map Record.citeKey = ["both", "half", "half"] := by
  obtain ⟨c, hc⟩ : ∃ c, survey.compile = .ok c := ⟨_, rfl⟩
  obtain ⟨hterm, -⟩ := ofRecords_mono survey
  refine ⟨?included, ?excluded, ?fields⟩
  case included =>
    obtain ⟨hcompile, hmono⟩ := hterm 0 1 _ "gamma" rfl (by decide) (by decide) c hc
    obtain ⟨c', hc'⟩ := hcompile.mpr ⟨_, rfl⟩
    have hok : (c.evaluate {} titledTexts).ok = true := by
      cases hc
      decide
    exact ⟨c, c', hc, hc', hok, (hmono c' hc' {} titledTexts).1 rfl hok⟩
  case excluded =>
    obtain ⟨hcompile, hmono⟩ := hterm 2 0 _ "epsi*" rfl (by decide) (by decide) c hc
    obtain ⟨c', hc'⟩ := hcompile.mpr ⟨_, rfl⟩
    have hok : (c.evaluate { title := false } titledTexts).ok = false := by
      cases hc
      decide
    exact ⟨c, c', hc, hc', hok, (hmono c' hc' { title := false } titledTexts).2 rfl hok⟩
  case fields =>
    have hwithin : Selection.IsWithin { title := false } {} := fun f _ => by cases f <;> rfl
    obtain ⟨-, hruns⟩ := (ofRecords_mono eitherWord).2 (by decide) _ _ hwithin
    obtain ⟨r', hr', hsub⟩ := hruns surveyed _ rfl
    refine ⟨_, r', rfl, hr', hsub, by decide, ?_⟩
    cases hr'
    decide

end Run

end CiteSieve
