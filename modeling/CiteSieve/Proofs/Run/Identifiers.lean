import CiteSieve.Proofs.Run.Classified

/-!
# Runs do not see identifiers

The identifier of a block tells it apart in a saved query and nowhere else. Taking the identifiers
out commutes with compiling, and nothing that a compiled query reports looks at them. So queries
that are the same but for identifiers have the same runs.

* `Run.ofRecords_anonymous`: a run of a query is the run of the query without identifiers.
* `Query.SameButIds.ofRecords_eq`: the same for two queries.
-/

namespace CiteSieve

/-! ## Taking identifiers out -/

/-- The block as if it had been given no identifier. -/
def Block.anonymous (b : Block) : Block :=
  { b with id := newBlockId }

/-- The query as if no block had been given an identifier. -/
def Query.anonymous (q : Query) : Query :=
  { q with blocks := q.blocks.map Block.anonymous }

/-- The queries differ at most in the identifiers of their blocks. -/
def Query.SameButIds (q q' : Query) : Prop :=
  q.anonymous = q'.anonymous

def CompiledBlock.anonymous (b : CompiledBlock) : CompiledBlock :=
  { b with block := b.block.anonymous }

def CompiledQuery.anonymous (q : CompiledQuery) : CompiledQuery :=
  { q with blocks := q.blocks.map CompiledBlock.anonymous }

/-! ## Compiling -/

theorem Block.compile_anonymous (b : Block) (ci : Bool) :
    b.anonymous.compile ci = (b.compile ci).map CompiledBlock.anonymous := by
  have hterms : b.anonymous.usableTerms = b.usableTerms := rfl
  have hregex : b.anonymous.isRegex = b.isRegex := rfl
  unfold Block.compile
  rw [hterms, hregex]
  cases b.usableTerms.mapM fun t =>
    (Term.compile t b.isRegex ci).map fun p => CompiledTerm.mk t p <;> rfl

/-- **Compiling does not see identifiers.** -/
theorem Query.compile_anonymous (q : Query) :
    q.anonymous.compile = q.compile.map CompiledQuery.anonymous := by
  have hblocks : q.anonymous.blocks.filter Block.isUsable =
      (q.blocks.filter Block.isUsable).map Block.anonymous :=
    List.filter_map
  have hcase : q.anonymous.caseInsensitive = q.caseInsensitive := rfl
  unfold Query.compile
  rw [hblocks, hcase, mapM_map_eq_map fun b => Block.compile_anonymous b q.caseInsensitive]
  cases (q.blocks.filter Block.isUsable).mapM (·.compile q.caseInsensitive) <;> rfl

/-! ## Evaluating -/

namespace CompiledQuery

variable (c : CompiledQuery)

theorem positiveNames_anonymous : c.anonymous.positiveNames = c.positiveNames := by
  unfold positiveNames anonymous
  rw [List.filter_map, List.map_map]
  rfl

theorem regexNames_anonymous : c.anonymous.regexNames = c.regexNames := by
  unfold regexNames anonymous
  rw [List.filter_map, List.map_map]
  rfl

theorem evaluateTexts_anonymous (texts : Field → String) :
    c.anonymous.evaluateTexts texts = c.evaluateTexts texts := by
  unfold evaluateTexts anonymous
  cases c.blocks with
  | nil => rfl
  | cons b bs =>
    simp only [List.map_cons]
    rw [List.zip_map_right, foldBlocks, List.foldl_map]
    rfl

end CompiledQuery

/-! ## Running -/

namespace TermStats

theorem seed_anonymous (q : Query) : seed q.anonymous = seed q := by
  unfold seed Query.anonymous
  rw [List.filter_map, List.foldl_map]
  rfl

theorem aggregate_anonymous (q : Query) (hitMaps : List HitMap) :
    aggregate (some q.anonymous) hitMaps = aggregate (some q) hitMaps := by
  unfold aggregate
  rw [Option.map_some, Option.map_some, seed_anonymous]

end TermStats

namespace Run

theorem items_anonymous (c : CompiledQuery) (rs : List Record) :
    items c.anonymous rs = items c rs := by
  unfold items CompiledQuery.evaluateRecord CompiledQuery.evaluate
  simp only [CompiledQuery.positiveNames_anonymous, CompiledQuery.evaluateTexts_anonymous]
  rfl

/-- **A run does not see identifiers:** neither its buckets nor what they hold, nor its counts,
statistics and highlights. -/
theorem ofRecords_anonymous (q : Query) (rs : List Record) :
    ofRecords q.anonymous rs = ofRecords q rs := by
  rw [ofRecords_eq, ofRecords_eq, Query.compile_anonymous]
  cases q.compile with
  | error e => rfl
  | ok c =>
    simp only [Except.map, ofCompiled, items_anonymous, TermStats.aggregate_anonymous,
      CompiledQuery.regexNames_anonymous]
    rfl

end Run

theorem Query.SameButIds.ofRecords_eq {q q' : Query} (h : q.SameButIds q') (rs : List Record) :
    Run.ofRecords q rs = Run.ofRecords q' rs := by
  rw [← Run.ofRecords_anonymous q, h, Run.ofRecords_anonymous]

end CiteSieve
