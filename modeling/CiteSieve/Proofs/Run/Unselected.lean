import Mathlib.Data.List.ReduceOption
import CiteSieve.Proofs.Highlight.Painting
import CiteSieve.Proofs.Run.Classified

/-!
# What a run does not see

Of a record a run reads the texts of the selected fields and nothing else. So two lists of records
that read alike there, one by one, are sorted alike and counted alike, whatever else their records
hold; and a field that is not selected has no hits, so nothing is painted on it.

* `Record.ReadsAs`: records that read alike in the selected fields.
* `Run.Assigns`: what a run makes of each record; `Item.SameFindings`: items that say the same.
* `Query.mem_hits_evaluation`: every entry of an evaluation is a block with its hits.
* `Run.ofRecords_readsAs`: records that read alike are treated alike.
-/

namespace CiteSieve

/-! ## Records that read alike -/

/-- The records have the same text in every selected field. -/
def Record.ReadsAs (s : Selection) (x y : Record) : Prop :=
  ∀ f, s.selects f = true → x.text f = y.text f

instance (s : Selection) (x y : Record) : Decidable (x.ReadsAs s y) :=
  decidable_of_iff (∀ f ∈ Field.all, s.selects f = true → x.text f = y.text f)
    ⟨fun h f => h f f.mem_all, fun h f _ => h f⟩

section ReadsAs

variable {s : Selection} {x y : Record}

theorem Record.ReadsAs.selectedText (h : x.ReadsAs s y) (f : Field) :
    x.selectedText s f = y.selectedText s f := by
  unfold Record.selectedText
  split
  · rename_i hf
    exact h f hf
  · rfl

theorem Record.ReadsAs.isEligible (h : x.ReadsAs s y) : x.isEligible s = y.isEligible s := by
  unfold Record.isEligible
  simp only [h.selectedText]

theorem Record.ReadsAs.evaluateRecord (h : x.ReadsAs s y) (c : CompiledQuery) :
    c.evaluateRecord s x = c.evaluateRecord s y :=
  congrArg c.evaluateTexts (funext h.selectedText)

end ReadsAs

/-! ## Items that say the same -/

/-- The items say the same of their records. -/
structure Item.SameFindings (i j : Item) : Prop where
  outcome : i.outcome = j.outcome
  names : i.names = j.names
  hits : i.hits = j.hits
  present : i.present = j.present
  missing : i.missing = j.missing

/-- An item says what the evaluation gives; the record is only named in it. -/
theorem Item.sameFindings_ofEvaluation (positive : List String) (x y : Record) (e : Evaluation) :
    (Item.ofEvaluation positive x e).SameFindings (Item.ofEvaluation positive y e) := by
  unfold Item.ofEvaluation
  split
  · exact ⟨rfl, rfl, rfl, rfl, rfl⟩
  · split <;> exact ⟨rfl, rfl, rfl, rfl, rfl⟩

theorem Item.mem_hits_ofEvaluation {positive : List String} {x : Record} {e : Evaluation}
    {hit : String × FieldHits} (h : hit ∈ (Item.ofEvaluation positive x e).hits) :
    hit ∈ e.hits := by
  unfold Item.ofEvaluation at h
  split at h
  · exact h
  · split at h
    · exact h
    · exact absurd h List.not_mem_nil

/-! ## Where hits come from -/

theorem Evaluation.mem_hits_takeBlock {e : Evaluation} {join : Bool → Bool → Bool} {ci : Bool}
    {texts : Field → String} {b : Block} {hit : String × FieldHits}
    (h : hit ∈ (e.takeBlock join ci texts b).hits) :
    hit ∈ e.hits ∨ hit = (b.name, b.hitsIn ci texts) := by
  unfold Evaluation.takeBlock Evaluation.take at h
  dsimp only at h
  split at h
  · exact Assoc.mem_put h
  · exact .inl h

theorem mem_hits_foldl_takeBlock {ci : Bool} {texts : Field → String}
    {hit : String × FieldHits} : ∀ (joined : List (Operator × Block)) {e : Evaluation},
      hit ∈ (joined.foldl (fun e ob => e.takeBlock ob.1.apply ci texts ob.2) e).hits →
        hit ∈ e.hits ∨ ∃ ob ∈ joined, hit = (ob.2.name, ob.2.hitsIn ci texts)
  | [], _, h => .inl h
  | ob :: joined, e, h => by
    rcases mem_hits_foldl_takeBlock joined h with h | ⟨ob', hob', h⟩
    · rcases Evaluation.mem_hits_takeBlock h with h | h
      · exact .inl h
      · exact .inr ⟨ob, List.mem_cons_self, h⟩
    · exact .inr ⟨ob', List.mem_cons_of_mem ob hob', h⟩

/-- **Every entry of an evaluation** is a usable block with its hits in the texts. -/
theorem Query.mem_hits_evaluation {q : Query} {texts : Field → String}
    {hit : String × FieldHits} (h : hit ∈ (q.evaluation texts).hits) :
    ∃ b ∈ q.usableBlocks, hit = (b.name, b.hitsIn q.caseInsensitive texts) := by
  unfold Query.evaluation at h
  cases hbs : q.usableBlocks with
  | nil =>
    rw [hbs] at h
    exact absurd h List.not_mem_nil
  | cons b bs =>
    rw [hbs] at h
    rcases mem_hits_foldl_takeBlock _ h with h | ⟨ob, hob, h⟩
    · rcases Evaluation.mem_hits_takeBlock h with h | h
      · exact absurd h List.not_mem_nil
      · exact ⟨b, List.mem_cons_self, h⟩
    · exact ⟨ob.2, List.mem_cons_of_mem b (List.of_mem_zip hob).2, h⟩

/-- A field that is not selected has no hits. -/
theorem CompiledQuery.get_eq_nil_of_mem_hits {q : Query} {c : CompiledQuery}
    (hc : q.compile = .ok c) {s : Selection} {x : Record} {hit : String × FieldHits}
    (h : hit ∈ (c.evaluateRecord s x).hits) {f : Field} (hf : s.selects f = false) :
    hit.2.get f = [] := by
  unfold CompiledQuery.evaluateRecord CompiledQuery.evaluate at h
  rw [CompiledQuery.evaluateTexts_of_compile hc] at h
  obtain ⟨b, -, rfl⟩ := Query.mem_hits_evaluation h
  simp only [Block.hitsIn, FieldHits.get_ofFun, hf, Bool.false_eq_true, if_false]
  exact if_pos rfl

/-- Where a field has no hits, nothing is painted on it. -/
theorem Highlighter.spans_eq_nil {h : Highlighter} {text : String} {field : Field} {hits : HitMap}
    (hnone : ∀ hit ∈ hits, hit.2.get field = []) : h.spans text field hits = .ok [] := by
  by_cases htext : text = ""
  · exact if_pos htext
  · have hspans : ∀ hits : HitMap, (∀ hit ∈ hits, hit.2.get field = []) →
        hits.mapM (h.spansIn text field) = .ok (hits.map fun _ => []) := by
      intro hits hnone
      induction hits with
      | nil => rfl
      | cons hit hits ih =>
        obtain ⟨hhit, hhits⟩ := List.forall_mem_cons.mp hnone
        rw [List.mapM_cons, ih hhits, spansIn, if_pos hhit]
        rfl
    have hflat : (hits.map fun _ => ([] : List Span)).flatten = [] := by simp
    rw [spans_eq htext, hspans hits hnone, Except.map, hflat, Span.resolveOverlaps,
      List.mergeSort_nil, Span.selectFrom]

/-! ## Runs -/

namespace Run

/-- What a run makes of a record: an item, or nothing if the record is not eligible. -/
def itemOf? (c : CompiledQuery) (x : Record) : Option Item :=
  if x.isEligible c.searchFields then
    some (.ofEvaluation c.positiveNames x (c.evaluateRecord c.searchFields x))
  else none

/-- The run makes `is` of the records, one by one: of each an item that names it, or nothing. Its
buckets hold these items and no others, in order. -/
structure Assigns (r : Run) (rs : List Record) (is : List (Option Item)) : Prop where
  each : List.Forall₂ (fun x i => ∀ j ∈ i, j.record = x) rs is
  buckets : ∀ o, r.itemsOf o = bucket o is.reduceOption

theorem reduceOption_map_itemOf? (c : CompiledQuery) : ∀ rs : List Record,
    (rs.map (itemOf? c)).reduceOption = items c rs
  | [] => rfl
  | x :: rs => by
    have ih := reduceOption_map_itemOf? c rs
    unfold items itemOf? at ih ⊢
    rw [List.map_cons, List.filter_cons]
    split
    · rw [List.reduceOption_cons_of_some, ih, List.map_cons]
    · rw [List.reduceOption_cons_of_none, ih]

theorem assigns_ofCompiled (q : Query) (c : CompiledQuery) (rs : List Record) :
    (ofCompiled q c rs).Assigns rs (rs.map (itemOf? c)) where
  each := by
    rw [List.forall₂_map_right_iff, List.forall₂_same]
    intro x _ j hj
    unfold itemOf? at hj
    split at hj
    · rw [← Option.mem_some.mp hj]
      exact Item.record_ofEvaluation
    · cases hj
  buckets := by
    intro o
    rw [reduceOption_map_itemOf?, itemsOf_ofCompiled]

theorem itemOf?_rel {c : CompiledQuery} {x y : Record} (h : x.ReadsAs c.searchFields y) :
    Option.Rel Item.SameFindings (itemOf? c x) (itemOf? c y) := by
  unfold itemOf?
  rw [h.isEligible, h.evaluateRecord]
  split
  · exact .some (Item.sameFindings_ofEvaluation _ x y _)
  · exact .none

section OfCompiled

variable {q : Query} {c : CompiledQuery} {xs ys : List Record}

theorem bucket_rel (h : List.Forall₂ (Record.ReadsAs c.searchFields) xs ys) (o : Outcome) :
    List.Forall₂ Item.SameFindings (bucket o (items c xs)) (bucket o (items c ys)) := by
  have hitems : List.Forall₂ Item.SameFindings (items c xs) (items c ys) := by
    unfold items
    rw [List.forall₂_map_left_iff, List.forall₂_map_right_iff]
    refine (List.rel_filter (R := Record.ReadsAs c.searchFields) ?_ h).imp ?_
    · intro x y hxy
      exact iff_of_eq (congrArg (· = true) hxy.isEligible)
    · intro x y hxy
      rw [hxy.evaluateRecord]
      exact Item.sameFindings_ofEvaluation _ x y _
  refine List.rel_filter ?_ hitems
  intro i j hij
  dsimp only
  rw [hij.outcome]

theorem summary_ofCompiled_eq (h : List.Forall₂ (Record.ReadsAs c.searchFields) xs ys) :
    (ofCompiled q c xs).summary = (ofCompiled q c ys).summary := by
  have hbucket := fun o => (bucket_rel h o).length_eq
  have hitems : (items c xs).length = (items c ys).length := by
    rw [← length_buckets (items c xs), ← length_buckets (items c ys), hbucket, hbucket, hbucket]
  unfold ofCompiled
  simp only [h.length_eq, hitems, hbucket]

theorem stats_ofCompiled_eq (h : List.Forall₂ (Record.ReadsAs c.searchFields) xs ys) :
    (ofCompiled q c xs).stats = (ofCompiled q c ys).stats := by
  have hhits : (bucket .matched (items c xs)).map Item.hits =
      (bucket .matched (items c ys)).map Item.hits := by
    rw [← List.forall₂_eq_eq_eq, List.forall₂_map_left_iff, List.forall₂_map_right_iff]
    exact (bucket_rel h .matched).imp fun _ _ hij => hij.hits
  unfold ofCompiled
  simp only [hhits]

/-- Nothing is painted on a field that is not selected. -/
theorem highlight_ofCompiled_eq_nil (hc : q.compile = .ok c) {o : Outcome} {i : Item}
    (hi : i ∈ (ofCompiled q c xs).itemsOf o) {f : Field} (hf : q.searchFields.selects f = false) :
    (ofCompiled q c xs).highlight i f = .ok [] := by
  rw [itemsOf_ofCompiled] at hi
  obtain ⟨x, -, rfl⟩ := exists_of_mem_bucket hi
  refine Highlighter.spans_eq_nil fun hit hhit => ?_
  rw [← Query.searchFields_of_compile hc] at hf
  exact CompiledQuery.get_eq_nil_of_mem_hits hc (Item.mem_hits_ofEvaluation hhit) hf

end OfCompiled

/-- **Records that read alike in the selected fields are treated alike**, one by one: they are left
out alike, or get items that say the same. The runs count the same and have the same statistics, or
neither is there, as a term of the query has no pattern. Nothing is painted on a field that is not
selected. -/
theorem ofRecords_readsAs (q : Query) {xs ys : List Record}
    (h : List.Forall₂ (Record.ReadsAs q.searchFields) xs ys) :
    (¬q.HasPatterns ∧ ∃ e, ofRecords q xs = .error e ∧ ofRecords q ys = .error e) ∨
    (q.HasPatterns ∧ ∃ rx ry is js, ofRecords q xs = .ok rx ∧ ofRecords q ys = .ok ry ∧
      rx.Assigns xs is ∧ ry.Assigns ys js ∧ List.Forall₂ (Option.Rel Item.SameFindings) is js ∧
      rx.summary = ry.summary ∧ rx.stats = ry.stats ∧
      ∀ r ∈ [rx, ry], ∀ o, ∀ i ∈ r.itemsOf o, ∀ f, q.searchFields.selects f = false →
        r.highlight i f = .ok []) := by
  simp only [← Query.exists_compile_iff, ofRecords_eq]
  cases hc : q.compile with
  | error e => exact .inl ⟨nofun, e, rfl, rfl⟩
  | ok c =>
    rw [← Query.searchFields_of_compile hc] at h
    refine .inr ⟨⟨c, rfl⟩, ofCompiled q c xs, ofCompiled q c ys, _, _, rfl, rfl,
      assigns_ofCompiled q c xs, assigns_ofCompiled q c ys, ?items, summary_ofCompiled_eq h,
      stats_ofCompiled_eq h, ?unpainted⟩
    case items =>
      rw [List.forall₂_map_left_iff, List.forall₂_map_right_iff]
      exact h.imp fun x y hxy => itemOf?_rel hxy
    case unpainted =>
      intro r hr o i hi f hf
      simp only [List.mem_cons, List.not_mem_nil, or_false] at hr
      rcases hr with rfl | rfl
      · exact highlight_ofCompiled_eq_nil hc hi hf
      · exact highlight_ofCompiled_eq_nil hc hi hf

/-- The blocks of `survey`, looked for in titles and in abstracts under any of their names. -/
def narrowSurvey : Query :=
  { survey with searchFields := { keywords := false } }

/-- The records of `surveyed` under other keys, with their abstracts under another name and with
keywords that would exclude them. -/
def resurveyed : List Record :=
  [⟨"book", "1", [("abstract", ""), ("abs", "beta"), ("title", "Alpha"), ("keywords", "delta")]⟩,
    ⟨"book", "2", [("title", "beta"), ("keyword", "delta")]⟩, ⟨"book", "3", [("note", "beta")]⟩,
    ⟨"book", "4", [("keywords", "alpha")]⟩, ⟨"book", "2", [("title", "beta")]⟩]

theorem ofRecords_readsAs_resurveyed :
    List.Forall₂ (Record.ReadsAs narrowSurvey.searchFields) surveyed resurveyed ∧
      ∃ rx ry is js, ofRecords narrowSurvey surveyed = .ok rx ∧
        ofRecords narrowSurvey resurveyed = .ok ry ∧ rx.Assigns surveyed is ∧
        ry.Assigns resurveyed js ∧ List.Forall₂ (Option.Rel Item.SameFindings) is js ∧
        rx.summary = ry.summary ∧ rx.stats = ry.stats ∧ ry.summary = ⟨5, 3, 1, 2, 0⟩ ∧
        ∀ i ∈ ry.itemsOf .matched, ry.highlight i .keywords = .ok [] := by
  have hreads : List.Forall₂ (Record.ReadsAs narrowSurvey.searchFields) surveyed resurveyed := by
    decide
  obtain ⟨r₀, h₀⟩ : ∃ r, ofRecords narrowSurvey surveyed = .ok r := ⟨_, rfl⟩
  rcases ofRecords_readsAs narrowSurvey hreads with
    ⟨-, e, he, -⟩ | ⟨-, rx, ry, is, js, hx, hy, his, hjs, hsame, hsummary, hstats, hpaint⟩
  · cases h₀.symm.trans he
  · have hcounts : ry.summary = ⟨5, 3, 1, 2, 0⟩ := by
      cases hy
      decide
    exact ⟨hreads, rx, ry, is, js, hx, hy, his, hjs, hsame, hsummary, hstats, hcounts,
      fun i hi => hpaint ry (by simp) .matched i hi .keywords rfl⟩

end Run

end CiteSieve
