import Mathlib.Algebra.BigOperators.Ring.List
import CiteSieve.Proofs.Run.Unselected
import CiteSieve.Proofs.Stats.Tallied

/-!
# What the statistics of a run count

A block hits a field with those of its usable terms that are found there, in order and as often as
they stand in the block. So of a term that stands once in its block, the statistics of a run count
the matched records that it hit, field by field; a term that stands there more than once counts as
often for each of them.

* `Block.count_termsFound`: how often a term is listed for a field that it hits.
* `Run.hits_of_block`: what an item says of a block.
* `Run.stats_count_records`: the counts of a term of a block, as numbers of matched records.
-/

namespace CiteSieve

/-- A term that hits a text is listed as often as it stands in the block. -/
theorem Block.count_termsFound (b : Block) (ci : Bool) (text t : String) :
    (b.termsFound ci text).count t =
      b.terms.count t * if (b.termsFound ci text).contains t then 1 else 0 := by
  by_cases ht : t ∈ b.termsFound ci text
  · rw [if_pos (List.contains_iff_mem.mpr ht), Nat.mul_one]
    unfold Block.termsFound at ht ⊢
    split at ht
    · exact absurd ht List.not_mem_nil
    · rename_i htext
      obtain ⟨hterm, hfound⟩ := List.mem_filter.mp ht
      rw [if_neg htext, List.count_filter (p := (Term.isFound · b.isRegex ci text)) hfound,
        Block.usableTerms, List.count_filter (List.mem_filter.mp hterm).2]
  · rw [if_neg (fun h => ht (List.contains_iff_mem.mp h)), Nat.mul_zero]
    exact List.count_eq_zero.mpr ht

theorem TermCount.fieldTotal_le {c : TermCount} {n : Nat} (h : ∀ f, c.get f ≤ n) :
    c.fieldTotal ≤ 3 * n := by
  have htitle : c.title ≤ n := h .title
  have habstract : c.abstract ≤ n := h .abstract
  have hkeywords : c.keywords ≤ n := h .keywords
  unfold fieldTotal
  omega

namespace Run

open TermStats (termCount)

variable {q : Query} {rs : List Record} {r : Run}

/-- The hits of an item name no block twice. -/
theorem nodup_keys_hits (hnames : q.hasUniqueNames = true) (hr : ofRecords q rs = .ok r)
    {o : Outcome} {i : Item} (hi : i ∈ r.itemsOf o) : i.hits.keys.Nodup := by
  obtain ⟨c, hc, rfl⟩ := ofRecords_eq_ok hr
  obtain ⟨-, -, hhits⟩ := item_ofCompiled hc hnames hi
  obtain ⟨hkeys, hsub⟩ :=
    CompiledQuery.names_evaluateRecord hc hnames q.searchFields i.record
  rw [hhits, ← hkeys]
  exact (Query.nodup_positiveNames hnames).sublist hsub

/-- What an item says of a block is nothing, or what the block hits in some texts. -/
theorem hits_of_block (hnames : q.hasUniqueNames = true) (hr : ofRecords q rs = .ok r)
    {o : Outcome} {i : Item} (hi : i ∈ r.itemsOf o) {b : Block} (hb : b ∈ q.blocks) :
    i.hits.of b.name = {} ∨ ∃ texts, i.hits.of b.name = b.hitsIn q.caseInsensitive texts := by
  obtain ⟨c, hc, rfl⟩ := ofRecords_eq_ok hr
  obtain ⟨-, -, hhits⟩ := item_ofCompiled hc hnames hi
  rw [CompiledQuery.evaluateRecord, CompiledQuery.evaluate,
    CompiledQuery.evaluateTexts_of_compile hc] at hhits
  unfold HitMap.of
  cases hlookup : i.hits.lookup b.name with
  | none => exact .inl rfl
  | some h =>
    have hmem := Assoc.mem_of_lookup hlookup
    rw [hhits] at hmem
    obtain ⟨b', hb', heq⟩ := Query.mem_hits_evaluation hmem
    obtain ⟨hname, rfl⟩ := Prod.mk.inj heq
    cases Query.eq_of_name_eq hnames hb (List.mem_filter.mp hb').1 hname
    exact .inr ⟨_, rfl⟩

/-- A term of a block is listed for a field as often as it stands in the block, or not at all. -/
theorem count_hits_of_block (hnames : q.hasUniqueNames = true) (hr : ofRecords q rs = .ok r)
    {o : Outcome} {i : Item} (hi : i ∈ r.itemsOf o) {b : Block} (hb : b ∈ q.blocks) (t : String)
    (f : Field) : ((i.hits.of b.name).get f).count t =
      b.terms.count t * if ((i.hits.of b.name).get f).contains t then 1 else 0 := by
  rcases hits_of_block hnames hr hi hb with hnone | ⟨texts, hhits⟩
  · rw [hnone]
    cases f <;> rfl
  · rw [hhits, Block.hitsIn, FieldHits.get_ofFun]
    exact b.count_termsFound q.caseInsensitive (texts f) t

theorem stats_ofRecords (hr : ofRecords q rs = .ok r) :
    r.stats = .aggregate (some q) (r.matched.map Item.hits) := by
  obtain ⟨c, -, rfl⟩ := ofRecords_eq_ok hr
  rfl

/-- **The statistics of a run count records**: for a usable term of a block that is not excluded,
the count of a field is the number of matched records that the term hit there, times the number of
times that it stands in the block; the documents are matched records, and every hit is in one of
them. -/
theorem stats_count_records (hnames : q.hasUniqueNames = true) (hr : ofRecords q rs = .ok r)
    {b : Block} (hb : b ∈ q.usableBlocks) (hexclude : b.exclude = false) {t : String}
    (ht : t ∈ b.usableTerms) :
    t ∈ (r.stats.block b.name).keys ∧
    (∀ f, (termCount r.stats.byBlock b.name t).get f =
      b.terms.count t * r.matched.countP fun i => ((i.hits.of b.name).get f).contains t) ∧
    (∀ f, (termCount r.stats.byBlock b.name t).get f ≤
      b.terms.count t * (termCount r.stats.byBlock b.name t).documents) ∧
    (termCount r.stats.byBlock b.name t).documents ≤ r.matched.length ∧
    (termCount r.stats.byBlock b.name t).fieldTotal ≤
      3 * (b.terms.count t * (termCount r.stats.byBlock b.name t).documents) := by
  have hblock : b ∈ q.blocks := (List.mem_filter.mp hb).1
  have hmaps : ∀ m ∈ r.matched.map Item.hits, m.keys.Nodup := by
    intro m hm
    obtain ⟨i, hi, rfl⟩ := List.mem_map.mp hm
    exact nodup_keys_hits (o := .matched) hnames hr hi
  have hfields : ∀ f, (termCount r.stats.byBlock b.name t).get f =
      b.terms.count t * r.matched.countP fun i => ((i.hits.of b.name).get f).contains t := by
    intro f
    rw [stats_ofRecords hr, TermStats.get_eq_sum_count (some q) hmaps, List.map_map,
      countP_eq_sum_map, ← List.sum_map_mul_left]
    refine congrArg List.sum (List.map_congr_left fun i hi => ?_)
    exact count_hits_of_block (o := .matched) hnames hr hi hblock t f
  have hdocuments : (termCount r.stats.byBlock b.name t).documents =
      r.matched.countP fun i => (i.hits.of b.name).has t := by
    rw [stats_ofRecords hr, TermStats.documents_eq_countP (some q) hmaps, List.countP_map]
    rfl
  have hle : ∀ f, (termCount r.stats.byBlock b.name t).get f ≤
      b.terms.count t * (termCount r.stats.byBlock b.name t).documents := by
    intro f
    rw [hfields, hdocuments]
    refine Nat.mul_le_mul_left _ (List.countP_mono_left fun i _ hhit => ?_)
    exact List.any_eq_true.mpr ⟨f, f.mem_all, hhit⟩
  refine ⟨?listed, hfields, hle, ?documents, ?total⟩
  case listed =>
    rw [stats_ofRecords hr, TermStats.mem_terms_aggregate]
    exact .inl ⟨q, rfl, b, hblock, hexclude, rfl, ht⟩
  case documents =>
    rw [hdocuments]
    exact List.countP_le_length
  case total => exact TermCount.fieldTotal_le hle

/-- A block that has a term twice. -/
def doubled : Query where
  blocks := [⟨"A", ["alpha", "alpha", "beta"], false, false, newBlockId⟩]

/-- A record that has the term in every field. -/
def alphaRecord : Record :=
  ⟨"misc", "k", [("title", "alpha"), ("abstract", "alpha"), ("keywords", "alpha")]⟩

/-- A term that stands twice in its block counts twice for the one record that it hit, in every
field. -/
theorem doubled_counts_twice :
    doubled.hasUniqueNames = true ∧ "alpha" ∈ (doubled.blocks.flatMap Block.usableTerms) ∧
      ∃ r, ofRecords doubled [alphaRecord] = .ok r ∧
        (r.matched.countP fun i => ((i.hits.of "A").get .title).contains "alpha") = 1 ∧
        (termCount r.stats.byBlock "A" "alpha").documents = 1 ∧
        (termCount r.stats.byBlock "A" "alpha").title = 2 ∧
        (termCount r.stats.byBlock "A" "alpha").fieldTotal = 6 :=
  ⟨by decide, by decide, _, rfl, by decide, by decide, by decide, by decide⟩

theorem stats_count_records_surveyed :
    survey.hasUniqueNames = true ∧ ∃ r, ofRecords survey surveyed = .ok r ∧
      (termCount r.stats.byBlock "A" "alpha").title = 1 ∧
      (termCount r.stats.byBlock "A" "alpha").documents ≤ r.matched.length := by
  have hnames : survey.hasUniqueNames = true := by decide
  obtain ⟨r, hr⟩ : ∃ r, ofRecords survey surveyed = .ok r := ⟨_, rfl⟩
  obtain ⟨-, hfields, -, hdocuments, -⟩ := stats_count_records (t := "alpha") hnames hr
    (b := ⟨"A", ["alpha", " "], false, false, newBlockId⟩) (by decide) rfl (by decide)
  refine ⟨hnames, r, hr, (hfields .title).trans ?_, hdocuments⟩
  cases hr
  decide

end Run

end CiteSieve
