import Mathlib.Data.List.Perm.Subperm
import CiteSieve.Proofs.Evaluation.Hits
import CiteSieve.Run

/-!
# How a run sorts records

Every record with text in a selected field goes into one of three buckets, by its evaluation alone;
the others go into none. The buckets keep the order of the records, the summary counts them, and a
partial record names the blocks that were found in it and those that were not.

* `Run.Classifies`: what it is to sort records by an evaluation.
* `Run.ofRecords_eq`: a run is there when its query is compiled.
* `Run.ofRecords_classifies`: a run sorts its records by what they evaluate to.
-/

namespace CiteSieve

/-! ## Names that are reported -/

/-- The names of the usable blocks that are not excluded, in order. -/
def Query.positiveNames (q : Query) : List String :=
  (q.usableBlocks.filter fun b => !b.exclude).map Block.name

theorem Query.map_block_of_compile {q : Query} {c : CompiledQuery} (h : q.compile = .ok c) :
    c.blocks.map CompiledBlock.block = q.usableBlocks := by
  have hblocks := (Query.compile_eq_ok h).2
  generalize q.usableBlocks = bs at hblocks ⊢
  generalize c.blocks = cs at hblocks ⊢
  induction hblocks with
  | nil => rfl
  | cons hb _ ih => rw [List.map_cons, ih, (Block.compile_eq_ok hb).1]

theorem Query.positiveNames_of_compile {q : Query} {c : CompiledQuery} (h : q.compile = .ok c) :
    c.positiveNames = q.positiveNames := by
  unfold CompiledQuery.positiveNames Query.positiveNames
  rw [← Query.map_block_of_compile h, List.filter_map, List.map_map]
  rfl

theorem Query.searchFields_of_compile {q : Query} {c : CompiledQuery} (h : q.compile = .ok c) :
    c.searchFields = q.searchFields := by
  obtain ⟨bs, -, h⟩ := Except.bind_eq_ok h
  cases h
  rfl

theorem Query.nodup_positiveNames {q : Query} (h : q.hasUniqueNames = true) :
    q.positiveNames.Nodup :=
  (Query.nodup_usableNames h).sublist (List.filter_sublist.map Block.name)

/-- What is reported of a record has positive names, in their order. -/
theorem CompiledQuery.names_evaluateRecord {q : Query} {c : CompiledQuery}
    (hc : q.compile = .ok c) (hnames : q.hasUniqueNames = true) (selection : Selection)
    (x : Record) :
    (c.evaluateRecord selection x).names = (c.evaluateRecord selection x).hits.keys ∧
      (c.evaluateRecord selection x).names.Sublist q.positiveNames := by
  unfold CompiledQuery.evaluateRecord CompiledQuery.evaluate
  rw [CompiledQuery.evaluateTexts_of_compile hc]
  generalize (fun f => if selection.selects f then x.text f else "") = shown
  obtain ⟨hns, hhits⟩ := Query.evaluation_reports_reached hnames shown
  refine ⟨by rw [hns, hhits], ?_⟩
  rw [hns, flatMap_entries, keys_map_entry]
  refine List.Sublist.map Block.name (((List.take_sublist _ _).filter _).trans ?_)
  refine List.monotone_filter_right _ fun b hb => ?_
  unfold Block.isReported at hb
  exact (Bool.and_eq_true_iff.mp hb).2

/-! ## Items -/

/-- The outcome of a record with the given evaluation. -/
def Evaluation.outcome (e : Evaluation) : Outcome :=
  if e.ok then .matched else if e.hits ≠ [] then .partialMatch else .unmatched

theorem Evaluation.outcome_eq_matched_iff {e : Evaluation} :
    e.outcome = .matched ↔ e.ok = true := by
  unfold outcome
  split
  · rename_i hok
    exact iff_of_true rfl hok
  · rename_i hok
    split <;> simp [hok]

theorem Evaluation.outcome_eq_partialMatch_iff {e : Evaluation} :
    e.outcome = .partialMatch ↔ e.ok = false ∧ e.hits ≠ [] := by
  unfold outcome
  cases e.ok with
  | true => simp
  | false =>
    by_cases hhits : e.hits = []
    · simp [hhits]
    · simp [hhits]

theorem Evaluation.outcome_eq_unmatched_iff {e : Evaluation} :
    e.outcome = .unmatched ↔ e.ok = false ∧ e.hits = [] := by
  unfold outcome
  cases e.ok with
  | true => simp
  | false =>
    by_cases hhits : e.hits = []
    · simp [hhits]
    · simp [hhits]

namespace Item

variable {positive : List String} {x : Record} {e : Evaluation}

theorem record_ofEvaluation : (ofEvaluation positive x e).record = x := by
  unfold ofEvaluation
  split
  · rfl
  · split <;> rfl

theorem outcome_ofEvaluation : (ofEvaluation positive x e).outcome = e.outcome := by
  unfold ofEvaluation Evaluation.outcome
  split
  · rfl
  · split <;> rfl

/-- An item shows what was evaluated, since an unmatched record has nothing to show. -/
theorem reports_ofEvaluation (h : e.names = e.hits.keys) :
    (ofEvaluation positive x e).names = e.names ∧ (ofEvaluation positive x e).hits = e.hits := by
  unfold ofEvaluation
  split
  · exact ⟨rfl, rfl⟩
  · split
    · exact ⟨rfl, rfl⟩
    · rename_i hhits
      have hnil : e.hits = [] := Decidable.not_not.mp hhits
      rw [h, hnil]
      exact ⟨rfl, rfl⟩

/-- A partial record has the names that are reported, and misses the others. -/
theorem present_ofEvaluation (h : e.outcome = .partialMatch) (hnames : e.names = e.hits.keys) :
    (ofEvaluation positive x e).present = positive.filter (· ∈ e.names) ∧
      (ofEvaluation positive x e).missing = positive.filter (· ∉ e.names) := by
  obtain ⟨hok, hhits⟩ := Evaluation.outcome_eq_partialMatch_iff.mp h
  unfold ofEvaluation
  rw [if_neg (by rw [hok]; exact Bool.false_ne_true), if_pos hhits, hnames]
  constructor
  · refine List.filter_congr fun n _ => ?_
    rw [Bool.eq_iff_iff, decide_eq_true_eq, Assoc.isSome_lookup_iff]
  · refine List.filter_congr fun n _ => ?_
    rw [Bool.eq_iff_iff, decide_eq_true_eq, ← Assoc.isSome_lookup_iff, Option.isNone_iff_eq_none,
      Option.not_isSome_iff_eq_none]

end Item

/-- The members of a sublist in the order of the list are the sublist. -/
theorem filter_mem_of_sublist {ns ps : List String} (h : ns.Sublist ps) (hnodup : ps.Nodup) :
    ps.filter (· ∈ ns) = ns := by
  have hsub : ns.Sublist (ps.filter (· ∈ ns)) := by
    have hfilter := h.filter (· ∈ ns)
    rwa [List.filter_eq_self.mpr (by simp)] at hfilter
  have hle : (ps.filter (· ∈ ns)).Subperm ns :=
    (hnodup.filter _).subperm fun n hn => of_decide_eq_true (List.mem_filter.mp hn).2
  exact (hsub.eq_of_length_le hle.length_le).symm

/-! ## Buckets -/

theorem Record.isEligible_iff {x : Record} {s : Selection} :
    x.isEligible s = true ↔ ∃ f, s.selects f = true ∧ x.text f ≠ "" := by
  unfold Record.isEligible Record.selectedText
  simp [Field.mem_all]

namespace Run

/-- The items of a bucket. -/
def itemsOf (r : Run) : Outcome → List Item
  | .matched => r.matched
  | .partialMatch => r.partialMatch
  | .unmatched => r.unmatched

/-- The records of a bucket. -/
def recordsOf (r : Run) (o : Outcome) : List Record :=
  (r.itemsOf o).map Item.record

/-- The run of a compiled query over records. -/
def ofCompiled (q : Query) (c : CompiledQuery) (rs : List Record) : Run where
  matched := bucket .matched (items c rs)
  partialMatch := bucket .partialMatch (items c rs)
  unmatched := bucket .unmatched (items c rs)
  summary := ⟨rs.length, (items c rs).length, (bucket .matched (items c rs)).length,
    (bucket .partialMatch (items c rs)).length, (bucket .unmatched (items c rs)).length⟩
  stats := .aggregate (some q) ((bucket .matched (items c rs)).map Item.hits)
  highlighter := ⟨c.caseInsensitive, c.regexNames⟩

/-- **A run is there when its query is compiled**, whatever the records. -/
theorem ofRecords_eq (q : Query) (rs : List Record) :
    ofRecords q rs = q.compile.map fun c => ofCompiled q c rs := by
  unfold ofRecords
  cases q.compile with
  | error e => rfl
  | ok c => rfl

theorem ofRecords_eq_ok {q : Query} {rs : List Record} {r : Run} (h : ofRecords q rs = .ok r) :
    ∃ c, q.compile = .ok c ∧ r = ofCompiled q c rs := by
  rw [ofRecords_eq] at h
  obtain ⟨c, hc, rfl⟩ := Except.map_eq_ok h
  exact ⟨c, hc, rfl⟩

theorem itemsOf_ofCompiled (q : Query) (c : CompiledQuery) (rs : List Record) (o : Outcome) :
    (ofCompiled q c rs).itemsOf o = bucket o (items c rs) := by
  cases o <;> rfl

/-- A bucket holds the eligible records with its outcome, in order. -/
theorem map_record_bucket (c : CompiledQuery) (rs : List Record) (o : Outcome) :
    (bucket o (items c rs)).map Item.record = rs.filter fun x =>
      x.isEligible c.searchFields &&
        decide ((c.evaluateRecord c.searchFields x).outcome = o) := by
  unfold bucket items
  rw [List.filter_map, List.map_map, List.filter_filter]
  have hid : Item.record ∘ (fun x => Item.ofEvaluation c.positiveNames x
      (c.evaluateRecord c.searchFields x)) = id := funext fun _ => Item.record_ofEvaluation
  rw [hid, List.map_id]
  refine List.filter_congr fun x _ => ?_
  rw [Function.comp_apply, Item.outcome_ofEvaluation, Bool.and_comm]

/-- Every item is in one bucket. -/
theorem length_buckets : ∀ is : List Item,
    (bucket .matched is).length + (bucket .partialMatch is).length +
      (bucket .unmatched is).length = is.length
  | [] => rfl
  | i :: is => by
    have ih := length_buckets is
    unfold bucket at ih ⊢
    cases h : i.outcome <;> simp [h] <;> omega

theorem exists_of_mem_bucket {c : CompiledQuery} {rs : List Record} {o : Outcome} {i : Item}
    (h : i ∈ bucket o (items c rs)) : ∃ x, (c.evaluateRecord c.searchFields x).outcome = o ∧
      i = Item.ofEvaluation c.positiveNames x (c.evaluateRecord c.searchFields x) := by
  obtain ⟨hi, ho⟩ := List.mem_filter.mp h
  obtain ⟨x, -, rfl⟩ := List.mem_map.mp hi
  rw [decide_eq_true_eq, Item.outcome_ofEvaluation] at ho
  exact ⟨x, ho, rfl⟩

/-! ## Classification -/

/-- The run sorts records by what they evaluate to, each into one bucket or none, and says of each
what was found. -/
structure Classifies (r : Run) (q : Query) (evaluate : Record → Evaluation) (rs : List Record) :
    Prop where
  /-- A record with text in a selected field is in one bucket, -/
  eligible : ∀ x ∈ rs, (∃ f, q.searchFields.selects f = true ∧ x.text f ≠ "") →
    ∃! o, x ∈ r.recordsOf o
  /-- and any other record in none. -/
  ineligible : ∀ x, (∀ f, q.searchFields.selects f = true → x.text f = "") →
    ∀ o, x ∉ r.recordsOf o
  /-- A bucket keeps the order of the records, and as many of each as there are. -/
  matched : r.recordsOf .matched = rs.filter fun x =>
    x.isEligible q.searchFields && (evaluate x).ok
  partialMatch : r.recordsOf .partialMatch = rs.filter fun x =>
    x.isEligible q.searchFields && (!(evaluate x).ok && decide ((evaluate x).hits ≠ []))
  unmatched : r.recordsOf .unmatched = rs.filter fun x =>
    x.isEligible q.searchFields && (!(evaluate x).ok && decide ((evaluate x).hits = []))
  /-- An item shows what was evaluated. -/
  items : ∀ o, ∀ i ∈ r.itemsOf o, i.outcome = o ∧ i.names = (evaluate i.record).names ∧
    i.hits = (evaluate i.record).hits
  total : r.summary.total = rs.length
  counted : r.summary.matched = r.matched.length ∧
    r.summary.partialMatch = r.partialMatch.length ∧ r.summary.unmatched = r.unmatched.length
  summed : r.summary.eligible = r.summary.matched + r.summary.partialMatch + r.summary.unmatched
  eligible_le : r.summary.eligible ≤ r.summary.total
  /-- A partial record has every positive name among those that are present or those that are
  missing, both in the order of the query. -/
  split : ∀ i ∈ r.partialMatch, (i.present ++ i.missing).Perm q.positiveNames ∧
    i.present.Sublist q.positiveNames ∧ i.missing.Sublist q.positiveNames
  present : ∀ i ∈ r.partialMatch, i.present = i.names ∧ i.present ≠ []

section OfCompiled

variable {q : Query} {c : CompiledQuery}

theorem recordsOf_ofCompiled (hc : q.compile = .ok c) (rs : List Record) (o : Outcome) :
    (ofCompiled q c rs).recordsOf o = rs.filter fun x =>
      x.isEligible q.searchFields &&
        decide ((c.evaluateRecord q.searchFields x).outcome = o) := by
  rw [recordsOf, itemsOf_ofCompiled, map_record_bucket, Query.searchFields_of_compile hc]

theorem mem_recordsOf_ofCompiled (hc : q.compile = .ok c) {rs : List Record} {o : Outcome}
    {x : Record} : x ∈ (ofCompiled q c rs).recordsOf o ↔
      x ∈ rs ∧ (∃ f, q.searchFields.selects f = true ∧ x.text f ≠ "") ∧
        (c.evaluateRecord q.searchFields x).outcome = o := by
  rw [recordsOf_ofCompiled hc, List.mem_filter, Bool.and_eq_true, decide_eq_true_eq,
    Record.isEligible_iff]

/-- An item of a bucket shows what its record evaluates to. -/
theorem item_ofCompiled (hc : q.compile = .ok c) (hnames : q.hasUniqueNames = true)
    {rs : List Record} {o : Outcome} {i : Item} (h : i ∈ (ofCompiled q c rs).itemsOf o) :
    i.outcome = o ∧ i.names = (c.evaluateRecord q.searchFields i.record).names ∧
      i.hits = (c.evaluateRecord q.searchFields i.record).hits := by
  rw [itemsOf_ofCompiled] at h
  obtain ⟨x, ho, rfl⟩ := exists_of_mem_bucket h
  have hkeys := (CompiledQuery.names_evaluateRecord hc hnames c.searchFields x).1
  rw [Item.record_ofEvaluation, Item.outcome_ofEvaluation, ← Query.searchFields_of_compile hc]
  exact ⟨ho, Item.reports_ofEvaluation hkeys⟩

/-- A partial record has what was found among the positive names, and misses the others. -/
theorem partialMatch_ofCompiled (hc : q.compile = .ok c) (hnames : q.hasUniqueNames = true)
    {rs : List Record} {i : Item} (h : i ∈ (ofCompiled q c rs).partialMatch) :
    i.present = i.names ∧ i.present ≠ [] ∧ i.names.Sublist q.positiveNames ∧
      i.missing = q.positiveNames.filter (· ∉ i.names) := by
  obtain ⟨x, ho, rfl⟩ := exists_of_mem_bucket h
  obtain ⟨hkeys, hsub⟩ := CompiledQuery.names_evaluateRecord hc hnames c.searchFields x
  rw [Query.positiveNames_of_compile hc]
  generalize c.evaluateRecord c.searchFields x = e at ho hkeys hsub ⊢
  obtain ⟨hpresent, hmissing⟩ := @Item.present_ofEvaluation q.positiveNames x e ho hkeys
  rw [filter_mem_of_sublist hsub (Query.nodup_positiveNames hnames)] at hpresent
  rw [hpresent, hmissing, (Item.reports_ofEvaluation hkeys).1]
  refine ⟨rfl, ?_, hsub, rfl⟩
  rw [hkeys, Assoc.keys, ne_eq, List.map_eq_nil_iff]
  exact (Evaluation.outcome_eq_partialMatch_iff.mp ho).2

end OfCompiled

theorem classifies_ofCompiled {q : Query} {c : CompiledQuery} (hc : q.compile = .ok c)
    (hnames : q.hasUniqueNames = true) (rs : List Record) :
    (ofCompiled q c rs).Classifies q (c.evaluateRecord q.searchFields) rs where
  eligible := by
    intro x hx htext
    refine ⟨(c.evaluateRecord q.searchFields x).outcome,
      (mem_recordsOf_ofCompiled hc).mpr ⟨hx, htext, rfl⟩, fun o ho => ?_⟩
    exact ((mem_recordsOf_ofCompiled hc).mp ho).2.2.symm
  ineligible := by
    intro x hempty o ho
    obtain ⟨-, ⟨f, hf, htext⟩, -⟩ := (mem_recordsOf_ofCompiled hc).mp ho
    exact htext (hempty f hf)
  matched := by
    rw [recordsOf_ofCompiled hc]
    simp only [Evaluation.outcome_eq_matched_iff, Bool.decide_eq_true]
  partialMatch := by
    rw [recordsOf_ofCompiled hc]
    simp only [Evaluation.outcome_eq_partialMatch_iff, Bool.decide_and, Bool.decide_eq_false]
  unmatched := by
    rw [recordsOf_ofCompiled hc]
    simp only [Evaluation.outcome_eq_unmatched_iff, Bool.decide_and, Bool.decide_eq_false]
  items := fun o i hi => item_ofCompiled hc hnames hi
  total := rfl
  counted := ⟨rfl, rfl, rfl⟩
  summed := (length_buckets _).symm
  eligible_le := by
    show (items c rs).length ≤ rs.length
    unfold items
    rw [List.length_map]
    exact List.length_filter_le _ _
  split := by
    intro i hi
    obtain ⟨hpresent, -, hsub, hmissing⟩ := partialMatch_ofCompiled hc hnames hi
    rw [hpresent, hmissing]
    refine ⟨?_, hsub, List.filter_sublist⟩
    have hperm := List.filter_append_perm (· ∈ i.names) q.positiveNames
    rw [filter_mem_of_sublist hsub (Query.nodup_positiveNames hnames)] at hperm
    simpa only [decide_not] using hperm
  present := by
    intro i hi
    obtain ⟨hpresent, hne, -⟩ := partialMatch_ofCompiled hc hnames hi
    exact ⟨hpresent, hne⟩

/-- **A run sorts its records.** -/
theorem ofRecords_classifies {q : Query} (hnames : q.hasUniqueNames = true) (rs : List Record) :
    ((∃ r, ofRecords q rs = .ok r) ↔ ∀ b ∈ q.usableBlocks, ∀ t ∈ b.usableTerms,
      ∃ p, Term.compile t b.isRegex q.caseInsensitive = .ok p) ∧
    ∀ r, ofRecords q rs = .ok r → ∃ c, q.compile = .ok c ∧
      r.Classifies q (c.evaluateRecord q.searchFields) rs := by
  refine ⟨?_, fun r hr => ?_⟩
  · rw [← Query.HasPatterns, ← Query.exists_compile_iff, ofRecords_eq]
    constructor
    · rintro ⟨r, hr⟩
      obtain ⟨c, hc, -⟩ := Except.map_eq_ok hr
      exact ⟨c, hc⟩
    · rintro ⟨c, hc⟩
      exact ⟨ofCompiled q c rs, by rw [hc]; rfl⟩
  · rw [ofRecords_eq] at hr
    obtain ⟨c, hc, rfl⟩ := Except.map_eq_ok hr
    exact ⟨c, hc, classifies_ofCompiled hc hnames rs⟩

/-- Two blocks that are wanted, and one that is not. -/
def survey : Query where
  blocks := [⟨"A", ["alpha", " "], false, false, newBlockId⟩,
    ⟨"B", ["b(e|i)ta"], true, false, newBlockId⟩, ⟨"C", ["delta"], false, true, newBlockId⟩]
  operators := [.and, .and]

/-- A record with all that is wanted, one with half of it, one with what is not, one without text
and the second one again. -/
def surveyed : List Record :=
  [⟨"misc", "both", [("title", "Alpha"), ("summary", "beta")]⟩,
    ⟨"misc", "half", [("title", "beta")]⟩, ⟨"misc", "none", [("keyword", "delta")]⟩,
    ⟨"misc", "blank", [("title", ""), ("note", "alpha beta")]⟩,
    ⟨"misc", "half", [("title", "beta")]⟩]

theorem ofRecords_classifies_surveyed :
    survey.hasUniqueNames = true ∧ ∃ r c, ofRecords survey surveyed = .ok r ∧
      survey.compile = .ok c ∧
      r.Classifies survey (c.evaluateRecord survey.searchFields) surveyed ∧
      (r.recordsOf .matched).map Record.citeKey = ["both"] ∧
      (r.recordsOf .partialMatch).map Record.citeKey = ["half", "half"] ∧
      (r.recordsOf .unmatched).map Record.citeKey = ["none"] := by
  have hnames : survey.hasUniqueNames = true := by decide
  obtain ⟨c, hc, hclass⟩ := (ofRecords_classifies hnames surveyed).2 _ rfl
  exact ⟨hnames, _, c, rfl, hc, hclass, by decide, by decide, by decide⟩

end Run

end CiteSieve
