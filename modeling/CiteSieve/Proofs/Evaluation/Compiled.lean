import CiteSieve.Evaluation
import CiteSieve.Proofs.Results

/-!
# What compiling keeps

Compiling keeps the usable blocks in order, and a compiled block hits what its block says. So an
evaluation is described on the query itself, without its compiled form.

* `Block.hitsIn`: the usable terms of a block that are found in the texts of a record.
* `CompiledQuery.evaluateTexts_of_compile`: the evaluation of a compiled query is the fold of its
  query's usable blocks (`Query.evaluation`).
-/

namespace CiteSieve

/-! ## Blocks -/

/-- The term is found in the text; a term that has no pattern is found nowhere. -/
def Term.isFound (term : String) (isRegex caseInsensitive : Bool) (text : String) : Bool :=
  match Term.compile term isRegex caseInsensitive with
  | .ok p => p.hits text
  | .error _ => false

theorem Term.isFound_iff {t text : String} {isRegex caseInsensitive : Bool} :
    Term.isFound t isRegex caseInsensitive text = true ↔
      ∃ p, Term.compile t isRegex caseInsensitive = .ok p ∧ p.hits text = true := by
  unfold Term.isFound
  cases Term.compile t isRegex caseInsensitive <;> simp

/-- The usable terms of a block that are found in a text; an empty text is never hit. -/
def Block.termsFound (b : Block) (caseInsensitive : Bool) (text : String) : List String :=
  if text = "" then []
  else b.usableTerms.filter fun t => Term.isFound t b.isRegex caseInsensitive text

/-- The hits of a block in the texts of a record. -/
def Block.hitsIn (b : Block) (caseInsensitive : Bool) (texts : Field → String) : FieldHits :=
  .ofFun fun f => b.termsFound caseInsensitive (texts f)

/-- What a compiled term is of the term it was compiled from. -/
def CompiledTerm.IsOf (isRegex caseInsensitive : Bool) (t : String) (c : CompiledTerm) : Prop :=
  c.term = t ∧ Term.compile t isRegex caseInsensitive = .ok c.pattern

theorem Block.compile_eq_ok {b : Block} {ci : Bool} {c : CompiledBlock}
    (h : b.compile ci = .ok c) :
    c.block = b ∧ List.Forall₂ (CompiledTerm.IsOf b.isRegex ci) b.usableTerms c.terms := by
  obtain ⟨ts, hts, h⟩ := Except.bind_eq_ok h
  cases h
  refine ⟨rfl, (forall₂_of_mapM_eq_ok hts).imp ?_⟩
  intro t ct ht
  obtain ⟨p, hp, rfl⟩ := Except.map_eq_ok ht
  exact ⟨rfl, hp⟩

theorem CompiledTerm.IsOf.hits {isRegex ci : Bool} {t : String} {c : CompiledTerm}
    (h : c.IsOf isRegex ci t) (text : String) :
    c.pattern.hits text = Term.isFound t isRegex ci text := by
  unfold Term.isFound
  rw [h.2]

theorem map_term_filter_hits {isRegex ci : Bool} {ts : List String} {cs : List CompiledTerm}
    (h : List.Forall₂ (CompiledTerm.IsOf isRegex ci) ts cs) (text : String) :
    (cs.filter fun c => c.pattern.hits text).map CompiledTerm.term =
      ts.filter fun t => Term.isFound t isRegex ci text := by
  induction h with
  | nil => rfl
  | cons hc _ ih =>
    rw [List.filter_cons, List.filter_cons, CompiledTerm.IsOf.hits hc]
    split
    · rw [List.map_cons, ih, hc.1]
    · exact ih

/-- **A compiled block hits what its block says.** -/
theorem CompiledBlock.hits_of_compile {b : Block} {ci : Bool} {c : CompiledBlock}
    (h : b.compile ci = .ok c) (texts : Field → String) : c.hits texts = b.hitsIn ci texts := by
  have hterms : ∀ text, c.termsHitting text = b.termsFound ci text := by
    intro text
    unfold CompiledBlock.termsHitting Block.termsFound
    rw [map_term_filter_hits (Block.compile_eq_ok h).2]
  unfold CompiledBlock.hits Block.hitsIn
  simp only [hterms]

/-! ## Queries -/

/-- Take in a block with its hits in the texts. -/
def Evaluation.takeBlock (e : Evaluation) (join : Bool → Bool → Bool) (ci : Bool)
    (texts : Field → String) (b : Block) : Evaluation :=
  e.take join b (b.hitsIn ci texts)

/-- The fold of the usable blocks over the texts. -/
def Query.evaluation (q : Query) (texts : Field → String) : Evaluation :=
  match q.usableBlocks with
  | [] => { ok := true }
  | b :: bs =>
    (q.operators.zip bs).foldl
      (fun e ob => e.takeBlock ob.1.apply q.caseInsensitive texts ob.2)
      (Evaluation.takeBlock { ok := true } (fun _ value => value) q.caseInsensitive texts b)

/-- A compiled query is its query with the usable blocks compiled. -/
theorem Query.compile_eq_ok {q : Query} {c : CompiledQuery} (h : q.compile = .ok c) :
    c.operators = q.operators ∧
      List.Forall₂ (fun b cb => b.compile q.caseInsensitive = .ok cb) q.usableBlocks c.blocks := by
  obtain ⟨bs, hbs, h⟩ := Except.bind_eq_ok h
  cases h
  exact ⟨rfl, forall₂_of_mapM_eq_ok hbs⟩

theorem foldBlocks_of_compile {ci : Bool} {bs : List Block} {cs : List CompiledBlock}
    (h : List.Forall₂ (fun b cb => b.compile ci = .ok cb) bs cs) (texts : Field → String) :
    ∀ (os : List Operator) (e : Evaluation), foldBlocks texts e (os.zip cs) =
      (os.zip bs).foldl (fun e ob => e.takeBlock ob.1.apply ci texts ob.2) e := by
  unfold foldBlocks
  induction h with
  | nil => exact fun os e => by rw [List.zip_nil_right, List.zip_nil_right]; rfl
  | cons hb _ ih =>
    intro os e
    cases os with
    | nil => rfl
    | cons o os =>
      rw [List.zip_cons_cons, List.zip_cons_cons, List.foldl_cons, List.foldl_cons, ih,
        CompiledBlock.hits_of_compile hb, (Block.compile_eq_ok hb).1]
      rfl

/-- **An evaluation is the fold of the usable blocks**, whatever they were compiled to. -/
theorem CompiledQuery.evaluateTexts_of_compile {q : Query} {c : CompiledQuery}
    (h : q.compile = .ok c) (texts : Field → String) :
    c.evaluateTexts texts = q.evaluation texts := by
  obtain ⟨hops, hblocks⟩ := Query.compile_eq_ok h
  unfold CompiledQuery.evaluateTexts Query.evaluation
  generalize q.usableBlocks = bs at hblocks ⊢
  generalize c.blocks = cs at hblocks ⊢
  cases hblocks with
  | nil => rfl
  | cons hb hbs =>
    simp only []
    rw [hops, foldBlocks_of_compile hbs, CompiledBlock.hits_of_compile hb,
      (Block.compile_eq_ok hb).1]
    rfl

end CiteSieve
