import CiteSieve.Proofs.Evaluation.Decided
import CiteSieve.Proofs.Run.Classified

/-!
# Why a record is partial

Values that are all true make a true value, however they are joined. So a query fails on a record
only if one of its blocks does: a block that is not excluded and is not found, which the record is
then said to miss, or an excluded block that is found. A record misses no block that is found in it,
unless no operator reaches the block.

* `foldValues_of_forall`: true values make a true value.
* `CompiledQuery.mem_names_evaluateRecord`: which blocks are reported of a record.
* `Run.partialMatch_explained`: what a partial record misses, or has too much.
-/

namespace CiteSieve

/-- **True values** are joined to a true value. -/
theorem foldValues_of_forall : ∀ (os : List Operator) {vs : List Bool}, (∀ v ∈ vs, v = true) →
    foldValues os vs = true
  | _, [], _ => rfl
  | [], v :: _, h => h v List.mem_cons_self
  | _ :: _, [v], h => h v List.mem_cons_self
  | o :: os, v :: w :: vs, h => by
    obtain ⟨rfl, hvs⟩ := List.forall_mem_cons.mp h
    obtain ⟨rfl, -⟩ := List.forall_mem_cons.mp hvs
    rw [foldValues_cons, Operator.apply_self]
    exact foldValues_of_forall os hvs

/-- The names that are reported of a record are those of the blocks that operators reach, that are
not excluded and are found in it. -/
theorem CompiledQuery.mem_names_evaluateRecord {q : Query} {c : CompiledQuery}
    (hc : q.compile = .ok c) (hnames : q.hasUniqueNames = true) (s : Selection) (x : Record)
    {n : String} : n ∈ (c.evaluateRecord s x).names ↔
      ∃ b ∈ q.reachedBlocks, b.exclude = false ∧
        b.isFoundIn q.caseInsensitive s x.text = true ∧ b.name = n := by
  unfold CompiledQuery.evaluateRecord CompiledQuery.evaluate
  rw [CompiledQuery.evaluateTexts_of_compile hc, (Query.evaluation_reports_reached hnames _).1,
    flatMap_entries, keys_map_entry, List.mem_map]
  simp only [List.mem_filter, Block.isReported, ← Block.fires_eq, Block.fires_selected,
    Bool.and_eq_true, Bool.not_eq_true', and_assoc, and_left_comm]

/-- Where every block that is not excluded is reported and no excluded block is found, the query
holds. -/
theorem CompiledQuery.evaluateRecord_ok {q : Query} {c : CompiledQuery} (hc : q.compile = .ok c)
    (hnames : q.hasUniqueNames = true) {s : Selection} {x : Record}
    (hincluded : ∀ n ∈ q.positiveNames, n ∈ (c.evaluateRecord s x).names)
    (hexcluded : ∀ b ∈ q.usableBlocks, b.exclude = true →
      b.isFoundIn q.caseInsensitive s x.text = false) : (c.evaluateRecord s x).ok = true := by
  rw [CompiledQuery.evaluateRecord, CompiledQuery.evaluate_ok_eq hc]
  refine foldValues_of_forall q.operators fun v hv => ?_
  obtain ⟨b, hb, rfl⟩ := List.mem_map.mp hv
  cases hexclude : b.exclude with
  | true => rw [Block.contributes, hexclude, hexcluded b hb hexclude]; rfl
  | false =>
    have hpositive : b.name ∈ q.positiveNames :=
      List.mem_map_of_mem (List.mem_filter.mpr ⟨hb, by rw [hexclude]; rfl⟩)
    obtain ⟨b', hb', -, hfound, hname⟩ :=
      (CompiledQuery.mem_names_evaluateRecord hc hnames s x).mp (hincluded _ hpositive)
    have husable : b' ∈ q.usableBlocks := (List.take_sublist _ _).subset hb'
    cases Query.eq_of_name_eq hnames (List.mem_filter.mp husable).1 (List.mem_filter.mp hb).1 hname
    rw [Block.contributes, hexclude, hfound]
    rfl

namespace Run

/-- A partial record misses the positive names that are not reported of it, and its query fails. -/
theorem missing_ofRecords {q : Query} (hnames : q.hasUniqueNames = true) {rs : List Record}
    {r : Run} (hr : ofRecords q rs = .ok r) {i : Item} (hi : i ∈ r.partialMatch) :
    ∃ c, q.compile = .ok c ∧ (c.evaluateRecord q.searchFields i.record).ok = false ∧
      i.missing = q.positiveNames.filter
        (· ∉ (c.evaluateRecord q.searchFields i.record).names) := by
  obtain ⟨c, hc, rfl⟩ := ofRecords_eq_ok hr
  obtain ⟨-, -, -, hmissing⟩ := partialMatch_ofCompiled hc hnames hi
  obtain ⟨-, hshown, -⟩ := item_ofCompiled (o := .partialMatch) hc hnames hi
  obtain ⟨x, houtcome, rfl⟩ := exists_of_mem_bucket hi
  refine ⟨c, hc, ?_, by rw [hmissing, hshown]⟩
  rw [Item.record_ofEvaluation, ← Query.searchFields_of_compile hc]
  exact (Evaluation.outcome_eq_partialMatch_iff.mp houtcome).1

/-- **A partial record is explained.** It misses a block, or a usable term of an excluded block is
found in a selected field; and where there are operators for all usable blocks, no usable term of a
block that it misses is found in a selected field with text. -/
theorem partialMatch_explained {q : Query} (hnames : q.hasUniqueNames = true) {rs : List Record}
    {r : Run} (hr : ofRecords q rs = .ok r) {i : Item} (hi : i ∈ r.partialMatch) :
    (i.missing ≠ [] ∨ ∃ b ∈ q.usableBlocks, b.exclude = true ∧ ∃ t ∈ b.usableTerms, ∃ f,
      q.searchFields.selects f = true ∧ i.record.text f ≠ "" ∧
        Term.isFound t b.isRegex q.caseInsensitive (i.record.text f) = true) ∧
    (q.usableBlocks.length - 1 ≤ q.operators.length →
      ∀ b ∈ q.blocks, b.name ∈ i.missing → ∀ t ∈ b.usableTerms, ∀ f,
        q.searchFields.selects f = true → i.record.text f ≠ "" →
          Term.isFound t b.isRegex q.caseInsensitive (i.record.text f) = false) := by
  obtain ⟨c, hc, hfails, hmissing⟩ := missing_ofRecords hnames hr hi
  constructor
  · by_contra hunexplained
    obtain ⟨hnone, hexcluded⟩ := not_or.mp hunexplained
    rw [hmissing, not_not, List.filter_eq_nil_iff] at hnone
    rw [CompiledQuery.evaluateRecord_ok hc hnames ?included ?excluded] at hfails
    case included => exact fun n hn => by simpa using hnone n hn
    case excluded =>
      refine fun b hb hexclude => Bool.eq_false_iff.mpr fun hfound => hexcluded ?_
      obtain ⟨f, hf, htext, t, ht, hmatch⟩ := Block.isFoundIn_iff.mp hfound
      exact ⟨b, hb, hexclude, t, ht, f, hf, htext, hmatch⟩
    exact Bool.noConfusion hfails
  · intro hops b hb hname t ht f hf htext
    rw [hmissing, List.mem_filter, decide_eq_true_eq] at hname
    obtain ⟨hpositive, hunreported⟩ := hname
    obtain ⟨b', hb', hsame⟩ := List.mem_map.mp hpositive
    obtain ⟨husable, hincluded⟩ := List.mem_filter.mp hb'
    cases Query.eq_of_name_eq hnames (List.mem_filter.mp husable).1 hb hsame
    have hreached : b ∈ q.reachedBlocks := by
      rwa [Query.reachedBlocks, List.take_of_length_le (by omega)]
    refine Bool.eq_false_iff.mpr fun hmatch => hunreported ?_
    exact (CompiledQuery.mem_names_evaluateRecord hc hnames q.searchFields i.record).mpr
      ⟨b, hreached, by simpa using hincluded,
        Block.isFoundIn_iff.mpr ⟨f, hf, htext, t, ht, hmatch⟩, rfl⟩

/-- A block with a blank among its terms, and one whose expression matches no text but the empty
one. -/
def sparse : Query where
  blocks := [⟨"A", ["alpha"], false, false, newBlockId⟩,
    ⟨"B", ["omega", " "], false, false, newBlockId⟩, ⟨"C", ["^$"], true, false, newBlockId⟩]
  operators := [.and, .and]
  searchFields := { keywords := false }

/-- A record with an abstract that is empty. -/
def sparseRecord : Record :=
  ⟨"misc", "k", [("title", "alpha beta"), ("abstract", "")]⟩

/-- A blank between words is no usable term, and an empty field is not searched: a record may miss a
block of which a blank term, or an expression in an empty field, would match. -/
theorem sparse_misses_matching :
    sparse.hasUniqueNames = true ∧ sparse.isConsistent = true ∧
      ∃ r i, ofRecords sparse [sparseRecord] = .ok r ∧ i ∈ r.partialMatch ∧
        (∃ b ∈ sparse.blocks, b.name ∈ i.missing ∧ ∃ t ∈ b.terms, ∃ f,
          sparse.searchFields.selects f = true ∧ i.record.text f ≠ "" ∧
            Term.isFound t b.isRegex sparse.caseInsensitive (i.record.text f) = true) ∧
        ∃ b ∈ sparse.blocks, b.name ∈ i.missing ∧ ∃ t ∈ b.usableTerms, ∃ f,
          sparse.searchFields.selects f = true ∧
            Term.isFound t b.isRegex sparse.caseInsensitive (i.record.text f) = true := by
  refine ⟨by decide, by decide, _, _, rfl, List.mem_singleton_self _, ?blank, ?empty⟩
  case blank =>
    exact ⟨⟨"B", ["omega", " "], false, false, newBlockId⟩, by decide, by decide, " ", by decide,
      .title, rfl, by decide, by decide⟩
  case empty =>
    exact ⟨⟨"C", ["^$"], true, false, newBlockId⟩, by decide, by decide, "^$", by decide,
      .abstract, rfl, by decide⟩

/-- What the survey finds in a record that has half of what is wanted. -/
def halfItem : Item where
  record := ⟨"misc", "half", [("title", "beta")]⟩
  outcome := .partialMatch
  names := ["B"]
  hits := [("B", ⟨["b(e|i)ta"], [], []⟩)]
  present := ["B"]
  missing := ["A"]

/-- What it finds in a record that has all of it, and what is not wanted. -/
def spoiltItem : Item where
  record := ⟨"misc", "spoilt", [("title", "alpha and beta"), ("keyword", "delta")]⟩
  outcome := .partialMatch
  names := ["A", "B"]
  hits := [("A", ⟨["alpha"], [], []⟩), ("B", ⟨["b(e|i)ta"], [], []⟩)]
  present := ["A", "B"]

theorem partialMatch_explained_surveyed :
    survey.hasUniqueNames = true ∧
      ∃ r, ofRecords survey [halfItem.record, spoiltItem.record] = .ok r ∧
        (halfItem ∈ r.partialMatch ∧ "A" ∈ halfItem.missing ∧
          Term.isFound "alpha" false true (halfItem.record.text .title) = false) ∧
        spoiltItem ∈ r.partialMatch ∧ spoiltItem.missing = [] ∧
          ∃ b ∈ survey.usableBlocks, b.exclude = true ∧ ∃ t ∈ b.usableTerms, ∃ f,
            spoiltItem.record.text f ≠ "" ∧
              Term.isFound t b.isRegex true (spoiltItem.record.text f) = true := by
  have hnames : survey.hasUniqueNames = true := by decide
  obtain ⟨r, hr, hhalf, hspoilt⟩ :
      ∃ r, ofRecords survey [halfItem.record, spoiltItem.record] = .ok r ∧
        halfItem ∈ r.partialMatch ∧ spoiltItem ∈ r.partialMatch :=
    ⟨_, rfl, by decide +kernel, by decide +kernel⟩
  obtain ⟨-, hmissed⟩ := partialMatch_explained hnames hr hhalf
  obtain ⟨hreason, -⟩ := partialMatch_explained hnames hr hspoilt
  refine ⟨hnames, r, hr, ⟨hhalf, by decide, ?_⟩, hspoilt, rfl, ?_⟩
  · exact hmissed (by decide) ⟨"A", ["alpha", " "], false, false, newBlockId⟩ (by decide)
      (by decide) "alpha" (by decide) .title rfl (by decide)
  · obtain ⟨b, hb, hexclude, t, ht, f, -, hfound⟩ := hreason.resolve_left (not_not.mpr rfl)
    exact ⟨b, hb, hexclude, t, ht, f, hfound⟩

end Run

end CiteSieve
