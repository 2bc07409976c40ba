import CiteSieve.Proofs.Run.Classified
import CiteSieve.Proofs.Stats.Counted

/-!
# Runs over more records

A record is evaluated by itself, so nothing of one record reaches another: the run over one list of
records after another has the buckets of the two runs one after the other, and it counts what the
two runs count together.

* `TermStats.IsSum`, `Run.IsJoin`: statistics that add up two others, and a run that joins two.
* `TermStats.aggregate_append`: statistics add up over the hit maps.
* `Run.ofRecords_append`: a run over records after others joins the two runs.
-/

namespace CiteSieve

namespace TermStats

/-- The statistics count what two others count together, and list what either lists. -/
structure IsSum (s a b : TermStats) : Prop where
  documents : s.documents = a.documents + b.documents
  overall : ∀ t, countOf s.overall t = countOf a.overall t + countOf b.overall t
  fields : ∀ f t, countOf (s.fieldCounts f) t =
    countOf (a.fieldCounts f) t + countOf (b.fieldCounts f) t
  termDocuments : ∀ n t, (termCount s.byBlock n t).documents =
    (termCount a.byBlock n t).documents + (termCount b.byBlock n t).documents
  termFields : ∀ n t f, (termCount s.byBlock n t).get f =
    (termCount a.byBlock n t).get f + (termCount b.byBlock n t).get f
  blocks : ∀ n, n ∈ s.byBlock.keys ↔ n ∈ a.byBlock.keys ∨ n ∈ b.byBlock.keys
  terms : ∀ n t, t ∈ (s.block n).keys ↔ t ∈ (a.block n).keys ∨ t ∈ (b.block n).keys
  allTerms : ∀ t, t ∈ s.overall.keys ↔ t ∈ a.overall.keys ∨ t ∈ b.overall.keys

/-- What a query lists is listed with either hit maps. -/
theorem isListed_append {q : Option Query} {hs hs' : List HitMap} {b t : String} :
    IsListed q (hs ++ hs') b t ↔ IsListed q hs b t ∨ IsListed q hs' b t := by
  unfold IsListed
  simp only [List.mem_append, or_and_right, exists_or]
  rw [or_or_or_comm, or_self]

/-- **Statistics add up**: every count is a sum over the hit maps. -/
theorem aggregate_append (q : Option Query) (hs hs' : List HitMap) :
    (aggregate q (hs ++ hs')).IsSum (aggregate q hs) (aggregate q hs') where
  documents := by
    simp only [documents_aggregate, List.length_append]
  overall := by
    simp only [countOf_overall_aggregate, List.countP_append, implies_true]
  fields := by
    simp only [countOf_fieldCounts_aggregate, List.map_append, List.sum_append, implies_true]
  termDocuments := by
    simp only [documents_termCount_aggregate, List.map_append, List.sum_append, implies_true]
  termFields := by
    simp only [get_termCount_aggregate, List.map_append, List.sum_append, implies_true]
  blocks := by
    simp only [mem_keys_byBlock_aggregate, isListed_append, exists_or, implies_true]
  terms := by
    simp only [mem_terms_aggregate, isListed_append, implies_true]
  allTerms := by
    simp only [mem_keys_overall_aggregate, isListed_append, exists_or, implies_true]

end TermStats

namespace Run

/-- The run has the items of two others, one after the other, and counts what they count together;
hits are found again as in either. -/
structure IsJoin (r rx ry : Run) : Prop where
  items : ∀ o, r.itemsOf o = rx.itemsOf o ++ ry.itemsOf o
  total : r.summary.total = rx.summary.total + ry.summary.total
  eligible : r.summary.eligible = rx.summary.eligible + ry.summary.eligible
  matched : r.summary.matched = rx.summary.matched + ry.summary.matched
  partialMatch : r.summary.partialMatch = rx.summary.partialMatch + ry.summary.partialMatch
  unmatched : r.summary.unmatched = rx.summary.unmatched + ry.summary.unmatched
  highlighter : r.highlighter = rx.highlighter ∧ r.highlighter = ry.highlighter
  stats : r.stats.IsSum rx.stats ry.stats

theorem items_append (c : CompiledQuery) (xs ys : List Record) :
    items c (xs ++ ys) = items c xs ++ items c ys := by
  unfold items
  rw [List.filter_append, List.map_append]

theorem bucket_append (o : Outcome) (is is' : List Item) :
    bucket o (is ++ is') = bucket o is ++ bucket o is' :=
  List.filter_append is is'

theorem isJoin_ofCompiled (q : Query) (c : CompiledQuery) (xs ys : List Record) :
    (ofCompiled q c (xs ++ ys)).IsJoin (ofCompiled q c xs) (ofCompiled q c ys) := by
  have hbucket : ∀ o, bucket o (items c (xs ++ ys)) = bucket o (items c xs) ++
      bucket o (items c ys) := fun o => by rw [items_append, bucket_append]
  have hlength : ∀ o, (bucket o (items c (xs ++ ys))).length =
      (bucket o (items c xs)).length + (bucket o (items c ys)).length := fun o => by
    rw [hbucket, List.length_append]
  constructor
  case items => exact fun o => by simp only [itemsOf_ofCompiled, hbucket]
  case total => exact List.length_append
  case eligible => exact (congrArg List.length (items_append c xs ys)).trans List.length_append
  case matched => exact hlength .matched
  case partialMatch => exact hlength .partialMatch
  case unmatched => exact hlength .unmatched
  case highlighter => exact ⟨rfl, rfl⟩
  case stats =>
    have happend := TermStats.aggregate_append (some q)
      ((bucket .matched (items c xs)).map Item.hits)
      ((bucket .matched (items c ys)).map Item.hits)
    rwa [← List.map_append, ← hbucket] at happend

/-- **Runs join**, or none is there, as a term of the query has no pattern. -/
theorem ofRecords_append (q : Query) (xs ys : List Record) :
    (¬q.HasPatterns ∧ ∃ e, ofRecords q xs = .error e ∧ ofRecords q ys = .error e ∧
      ofRecords q (xs ++ ys) = .error e) ∨
    (q.HasPatterns ∧ ∃ rx ry r, ofRecords q xs = .ok rx ∧ ofRecords q ys = .ok ry ∧
      ofRecords q (xs ++ ys) = .ok r ∧ r.IsJoin rx ry) := by
  simp only [← Query.exists_compile_iff, ofRecords_eq]
  cases hc : q.compile with
  | error e => exact .inl ⟨nofun, e, rfl, rfl, rfl⟩
  | ok c => exact .inr ⟨⟨c, rfl⟩, _, _, _, rfl, rfl, rfl, isJoin_ofCompiled q c xs ys⟩

/-- The same records twice: every count is doubled. -/
theorem ofRecords_append_surveyed : ∃ rx r, ofRecords survey surveyed = .ok rx ∧
    ofRecords survey (surveyed ++ surveyed) = .ok r ∧ r.IsJoin rx rx ∧
    r.summary = ⟨10, 8, 2, 4, 2⟩ ∧ r.stats.overall = [("alpha", 2), ("b(e|i)ta", 2)] := by
  obtain ⟨r₀, h₀⟩ : ∃ r, ofRecords survey surveyed = .ok r := ⟨_, rfl⟩
  rcases ofRecords_append survey surveyed surveyed with
    ⟨-, e, he, -⟩ | ⟨-, rx, ry, r, hx, hy, hr, h⟩
  · cases h₀.symm.trans he
  · cases hx.symm.trans hy
    refine ⟨rx, r, hx, hr, h, ?_⟩
    cases hr
    exact ⟨by decide, by decide⟩

end Run

end CiteSieve
