import Mathlib.Data.List.Nodup
import CiteSieve.Proofs.Evaluation.Value

/-!
# The hits of an evaluation

Every block that is folded is looked for, whatever the value so far and whichever operators join
the blocks. So what is reported is a matter of the blocks and the texts alone: the blocks that are
not excluded and have a term in a selected text, in order, each with the terms found in each field.

* `Query.HasPatterns`, `Query.exists_compile_iff`: a query is compiled when its terms have patterns.
* `foldBlocks_reports_eq`: operators and values have no say in what is reported.
* `Query.evaluate_reports`: what is reported, exactly.
-/

namespace CiteSieve

/-! ## Compiling -/

/-- Every usable term is an expression, or is looked for literally. -/
def Query.HasPatterns (q : Query) : Prop :=
  ∀ b ∈ q.usableBlocks, ∀ t ∈ b.usableTerms,
    ∃ p, Term.compile t b.isRegex q.caseInsensitive = .ok p

theorem Block.exists_compile {b : Block} {ci : Bool}
    (h : ∀ t ∈ b.usableTerms, ∃ p, Term.compile t b.isRegex ci = .ok p) :
    ∃ c, b.compile ci = .ok c := by
  have hterms : ∀ t ∈ b.usableTerms, ∃ ct,
      ((Term.compile t b.isRegex ci).map fun p => CompiledTerm.mk t p) = .ok ct := by
    intro t ht
    obtain ⟨p, hp⟩ := h t ht
    exact ⟨⟨t, p⟩, by rw [hp]; rfl⟩
  obtain ⟨ts, hts⟩ := exists_mapM_eq_ok hterms
  refine ⟨⟨b, ts⟩, ?_⟩
  unfold Block.compile
  rw [hts]
  rfl

theorem Query.exists_compile {q : Query} (h : q.HasPatterns) : ∃ c, q.compile = .ok c := by
  have hblocks : ∀ b ∈ q.blocks.filter Block.isUsable, ∃ cb,
      b.compile q.caseInsensitive = .ok cb := by
    intro b hb
    exact Block.exists_compile (h b hb)
  obtain ⟨bs, hbs⟩ := exists_mapM_eq_ok hblocks
  refine ⟨⟨bs, q.operators, q.caseInsensitive, q.searchFields⟩, ?_⟩
  unfold Query.compile
  rw [hbs]
  rfl

/-- **A query is compiled exactly when its terms have patterns.** -/
theorem Query.exists_compile_iff {q : Query} :
    (∃ c, q.compile = .ok c) ↔ q.HasPatterns := by
  constructor
  · rintro ⟨c, hc⟩ b hb t ht
    obtain ⟨cb, -, hcb⟩ := exists_of_mem_forall₂ (Query.compile_eq_ok hc).2 b hb
    obtain ⟨ct, -, hct⟩ := exists_of_mem_forall₂ (Block.compile_eq_ok hcb).2 t ht
    exact ⟨ct.pattern, hct.2⟩
  · exact Query.exists_compile

/-! ## One step -/

/-- The names and the hits that have been collected are the same. -/
def Evaluation.SameReports (e e' : Evaluation) : Prop :=
  e.names = e'.names ∧ e.hits = e'.hits

/-- **Neither the value so far nor the operator** has a say in what a block adds. -/
theorem Evaluation.SameReports.take {e e' : Evaluation} (h : e.SameReports e')
    (join join' : Bool → Bool → Bool) (b : Block) (fh : FieldHits) :
    (e.take join b fh).SameReports (e'.take join' b fh) := by
  obtain ⟨hnames, hhits⟩ := h
  unfold Evaluation.take Evaluation.SameReports
  dsimp only
  split
  · exact ⟨by rw [hnames], by rw [hhits]⟩
  · exact ⟨hnames, hhits⟩

theorem foldBlocks_reports_eq (texts : Field → String) :
    ∀ {joined joined' : List (Operator × CompiledBlock)} {e e' : Evaluation},
      joined.map Prod.snd = joined'.map Prod.snd → e.SameReports e' →
        (foldBlocks texts e joined).SameReports (foldBlocks texts e' joined')
  | [], [], _, _, _, h => h
  | [], _ :: _, _, _, hblocks, _ => absurd hblocks (by simp)
  | _ :: _, [], _, _, hblocks, _ => absurd hblocks (by simp)
  | (o, b) :: joined, (o', b') :: joined', e, e', hblocks, h => by
    rw [List.map_cons, List.map_cons] at hblocks
    obtain ⟨rfl, htail⟩ := List.cons.inj hblocks
    have ih := foldBlocks_reports_eq texts htail
      (h.take o.apply o'.apply b.block (b.hits texts))
    exact ih

/-! ## All steps -/

/-- What a block adds to the hits: itself with its hits, or nothing. -/
def Block.entries (ci : Bool) (texts : Field → String) (b : Block) : HitMap :=
  if b.isReported (b.hitsIn ci texts) then [(b.name, b.hitsIn ci texts)] else []

theorem Evaluation.takeBlock_names (e : Evaluation) (join : Bool → Bool → Bool) (ci : Bool)
    (texts : Field → String) (b : Block) :
    (e.takeBlock join ci texts b).names = e.names ++ Assoc.keys (b.entries ci texts) := by
  unfold Evaluation.takeBlock Evaluation.take Block.entries
  dsimp only
  split
  · rfl
  · exact (List.append_nil _).symm

/-- A block with a name of its own is added at the end. -/
theorem Evaluation.takeBlock_hits {e : Evaluation} {b : Block} (hname : b.name ∉ e.hits.keys)
    (join : Bool → Bool → Bool) (ci : Bool) (texts : Field → String) :
    (e.takeBlock join ci texts b).hits = e.hits ++ b.entries ci texts := by
  unfold Evaluation.takeBlock Evaluation.take Block.entries
  dsimp only
  split
  · exact Assoc.put_of_not_mem hname _
  · exact (List.append_nil _).symm

theorem mem_keys_entries {ci : Bool} {texts : Field → String} {b : Block} {name : String}
    (h : name ∈ Assoc.keys (b.entries ci texts)) : name = b.name := by
  unfold Block.entries at h
  split at h
  · exact List.mem_singleton.mp h
  · exact absurd h List.not_mem_nil

theorem foldl_takeBlock_names (ci : Bool) (texts : Field → String) :
    ∀ (joined : List (Operator × Block)) (e : Evaluation),
      (joined.foldl (fun e ob => e.takeBlock ob.1.apply ci texts ob.2) e).names =
        e.names ++ Assoc.keys ((joined.map Prod.snd).flatMap (Block.entries ci texts))
  | [], e => (List.append_nil _).symm
  | ob :: joined, e => by
    rw [List.foldl_cons, foldl_takeBlock_names ci texts joined, Evaluation.takeBlock_names,
      List.map_cons, List.flatMap_cons, List.append_assoc, Assoc.keys, Assoc.keys, Assoc.keys,
      List.map_append]

/-- Blocks with names of their own are added one after the other. -/
theorem foldl_takeBlock_hits (ci : Bool) (texts : Field → String) :
    ∀ (joined : List (Operator × Block)) (e : Evaluation),
      (joined.map (·.2.name)).Nodup → (∀ ob ∈ joined, ob.2.name ∉ e.hits.keys) →
      (joined.foldl (fun e ob => e.takeBlock ob.1.apply ci texts ob.2) e).hits =
        e.hits ++ (joined.map Prod.snd).flatMap (Block.entries ci texts)
  | [], e, _, _ => (List.append_nil _).symm
  | ob :: joined, e, hnodup, hnew => by
    rw [List.map_cons, List.nodup_cons] at hnodup
    have hhits := Evaluation.takeBlock_hits (hnew ob List.mem_cons_self) ob.1.apply ci texts
    have hrest : ∀ ob' ∈ joined,
        ob'.2.name ∉ (e.takeBlock ob.1.apply ci texts ob.2).hits.keys := by
      intro ob' hob' hmem
      rw [hhits, Assoc.keys, List.map_append, List.mem_append] at hmem
      rcases hmem with hmem | hmem
      · exact hnew ob' (List.mem_cons_of_mem ob hob') hmem
      · have hsame := mem_keys_entries hmem
        exact hnodup.1 (hsame ▸ List.mem_map_of_mem hob')
    rw [List.foldl_cons, foldl_takeBlock_hits ci texts joined _ hnodup.2 hrest, hhits,
      List.map_cons, List.flatMap_cons, List.append_assoc]

/-! ## Queries -/

/-- What the usable blocks of a query report, in order. -/
def Query.entries (q : Query) (texts : Field → String) : HitMap :=
  q.usableBlocks.flatMap (Block.entries q.caseInsensitive texts)

theorem Query.nodup_usableNames {q : Query} (h : q.hasUniqueNames = true) :
    (q.usableBlocks.map Block.name).Nodup := by
  have hall : q.blockNames.Nodup := of_decide_eq_true h
  exact hall.sublist (List.filter_sublist.map Block.name)

/-- Blocks are told apart by their names. -/
theorem Query.eq_of_name_eq {q : Query} (h : q.hasUniqueNames = true) {b b' : Block}
    (hb : b ∈ q.blocks) (hb' : b' ∈ q.blocks) (hname : b.name = b'.name) : b = b' :=
  List.inj_on_of_nodup_map (of_decide_eq_true h) hb hb' hname

/-- The usable blocks that operators reach, in order. -/
def Query.reachedBlocks (q : Query) : List Block :=
  q.usableBlocks.take (q.operators.length + 1)

theorem map_snd_zip_eq_take {α β : Type} (as : List α) (bs : List β) :
    (as.zip bs).map Prod.snd = bs.take as.length := by
  rw [List.zip_eq_zip_take_min, List.map_snd_zip, ← List.take_eq_take_min]
  rw [List.length_take, List.length_take]
  omega

/-- **An evaluation reports what its blocks report**, as far as operators reach. -/
theorem Query.evaluation_reports_reached {q : Query} (hnames : q.hasUniqueNames = true)
    (texts : Field → String) :
    (q.evaluation texts).names =
        Assoc.keys (q.reachedBlocks.flatMap (Block.entries q.caseInsensitive texts)) ∧
      (q.evaluation texts).hits =
        q.reachedBlocks.flatMap (Block.entries q.caseInsensitive texts) := by
  have hnodup := Query.nodup_usableNames hnames
  unfold Query.evaluation Query.reachedBlocks
  cases hbs : q.usableBlocks with
  | nil => exact ⟨rfl, rfl⟩
  | cons b bs =>
    rw [hbs, List.map_cons, List.nodup_cons] at hnodup
    rw [List.take_succ_cons]
    have hzip := map_snd_zip_eq_take q.operators bs
    have hzipNames : ((q.operators.zip bs).map (·.2.name)).Sublist (bs.map Block.name) := by
      have hnames := (List.take_sublist q.operators.length bs).map Block.name
      rwa [← hzip, List.map_map] at hnames
    -- The first block is taken into nothing.
    have hfirst := Evaluation.takeBlock_hits (e := { ok := true }) (b := b) List.not_mem_nil
      (fun _ value => value) q.caseInsensitive texts
    dsimp only
    constructor
    · rw [foldl_takeBlock_names, Evaluation.takeBlock_names, hzip, List.flatMap_cons, Assoc.keys,
        Assoc.keys, Assoc.keys, List.map_append]
      rfl
    · rw [foldl_takeBlock_hits, hfirst, hzip, List.flatMap_cons]
      · rfl
      · exact hnodup.2.sublist hzipNames
      · intro ob hob hmem
        rw [hfirst] at hmem
        have hname := mem_keys_entries hmem
        exact hnodup.1 (hname ▸ hzipNames.subset (List.mem_map_of_mem hob))

/-- All usable blocks report, where operators reach all of them. -/
theorem Query.evaluation_reports {q : Query} (hnames : q.hasUniqueNames = true)
    (hops : q.usableBlocks.length - 1 ≤ q.operators.length) (texts : Field → String) :
    (q.evaluation texts).names = (q.entries texts).keys ∧
      (q.evaluation texts).hits = q.entries texts := by
  have hreached : q.reachedBlocks = q.usableBlocks := List.take_of_length_le (by omega)
  have hreports := Query.evaluation_reports_reached hnames texts
  rwa [hreached] at hreports

/-! ## On selected fields -/

/-- The usable terms of a block that are found in a field, if it is selected and not empty. -/
def Block.termsIn (b : Block) (ci : Bool) (selection : Selection) (texts : Field → String)
    (f : Field) : List String :=
  if selection.selects f = true ∧ texts f ≠ "" then
    b.usableTerms.filter fun t => Term.isFound t b.isRegex ci (texts f)
  else []

/-- Some usable term of the block is found in some field that is selected and not empty. -/
def Block.isFoundIn (b : Block) (ci : Bool) (selection : Selection) (texts : Field → String) :
    Bool :=
  Field.all.any fun f => selection.selects f && texts f ≠ "" &&
    b.usableTerms.any fun t => Term.isFound t b.isRegex ci (texts f)

theorem Block.isFoundIn_iff {b : Block} {ci : Bool} {s : Selection} {texts : Field → String} :
    b.isFoundIn ci s texts = true ↔ ∃ f, s.selects f = true ∧ texts f ≠ "" ∧
      ∃ t ∈ b.usableTerms, Term.isFound t b.isRegex ci (texts f) = true := by
  unfold Block.isFoundIn
  simp [Field.mem_all, and_assoc]

/-- The usable blocks that are not excluded and are found, in order. -/
def Query.foundBlocks (q : Query) (selection : Selection) (texts : Field → String) : List Block :=
  q.usableBlocks.filter fun b => !b.exclude && b.isFoundIn q.caseInsensitive selection texts

theorem Block.get_hitsIn_selected (b : Block) (ci : Bool) (selection : Selection)
    (texts : Field → String) (f : Field) :
    (b.hitsIn ci fun f => if selection.selects f then texts f else "").get f =
      b.termsIn ci selection texts f := by
  unfold Block.hitsIn Block.termsFound Block.termsIn
  rw [FieldHits.get_ofFun]
  by_cases hs : selection.selects f = true
  · by_cases ht : texts f = ""
    · simp only [hs, ht, if_true, ne_eq, not_true_eq_false, and_false, if_false]
    · simp only [hs, ht, if_true, ne_eq, not_false_eq_true, and_self, if_false]
  · simp only [hs, Bool.false_eq_true, if_false, if_true, false_and]

theorem Block.fires_selected (b : Block) (ci : Bool) (selection : Selection)
    (texts : Field → String) :
    (b.fires ci fun f => if selection.selects f then texts f else "") =
      b.isFoundIn ci selection texts := by
  unfold Block.fires Block.isFoundIn
  congr 1
  funext f
  by_cases hs : selection.selects f = true
  · simp only [hs, if_true, Bool.true_and]
  · simp only [hs, Bool.false_eq_true, if_false, ne_eq, not_true_eq_false, decide_false,
      Bool.false_and]

theorem flatMap_entries (ci : Bool) (texts : Field → String) : ∀ bs : List Block,
    bs.flatMap (Block.entries ci texts) =
      (bs.filter fun b => b.isReported (b.hitsIn ci texts)).map fun b =>
        (b.name, b.hitsIn ci texts)
  | [] => rfl
  | b :: bs => by
    rw [List.flatMap_cons, flatMap_entries ci texts bs, Block.entries, List.filter_cons]
    split
    · rfl
    · rfl

/-- What is reported are the found blocks with the terms that are found. -/
theorem Query.entries_selected (q : Query) (selection : Selection) (texts : Field → String) :
    (q.entries fun f => if selection.selects f then texts f else "") =
      (q.foundBlocks selection texts).map fun b =>
        (b.name, .ofFun (b.termsIn q.caseInsensitive selection texts)) := by
  unfold Query.entries Query.foundBlocks
  rw [flatMap_entries]
  have hreported : ∀ b : Block, (b.isReported
      (b.hitsIn q.caseInsensitive fun f => if selection.selects f then texts f else "")) =
      (!b.exclude && b.isFoundIn q.caseInsensitive selection texts) := by
    intro b
    rw [← Block.fires_selected, Block.fires_eq, Bool.and_comm]
    rfl
  have hhits : ∀ b : Block,
      (b.hitsIn q.caseInsensitive fun f => if selection.selects f then texts f else "") =
        .ofFun (b.termsIn q.caseInsensitive selection texts) := by
    intro b
    unfold Block.hitsIn FieldHits.ofFun
    simp only [← Block.get_hitsIn_selected, Block.hitsIn, FieldHits.get_ofFun]
  rw [List.filter_congr fun b _ => hreported b]
  simp only [hhits]

theorem keys_map_entry (bs : List Block) (g : Block → FieldHits) :
    Assoc.keys (bs.map fun b => (b.name, g b)) = bs.map Block.name := by
  unfold Assoc.keys
  rw [List.map_map]
  rfl

theorem lookup_map_of_nodup {bs : List Block} (g : Block → FieldHits) {b : Block} (hb : b ∈ bs)
    (h : (bs.map Block.name).Nodup) :
    (bs.map fun b => (b.name, g b)).lookup b.name = some (g b) :=
  Assoc.lookup_of_mem (by rwa [keys_map_entry]) (List.mem_map_of_mem hb)

/-- An excluded block shares its name with no block that is found. -/
theorem Query.excluded_not_mem_foundBlocks {q : Query} (h : q.hasUniqueNames = true)
    (selection : Selection) (texts : Field → String) {b : Block} (hb : b ∈ q.blocks)
    (hexclude : b.exclude = true) : b.name ∉ (q.foundBlocks selection texts).map Block.name := by
  intro hmem
  obtain ⟨b', hb', hname⟩ := List.mem_map.mp hmem
  obtain ⟨husable, hfound⟩ := List.mem_filter.mp hb'
  have hsame : b' = b := Query.eq_of_name_eq h (List.mem_filter.mp husable).1 hb hname
  rw [hsame, hexclude] at hfound
  exact absurd hfound (by simp)

theorem CompiledQuery.evaluate_reports_eq {q : Query} {c : CompiledQuery} (hc : q.compile = .ok c)
    (hnames : q.hasUniqueNames = true) (hops : q.usableBlocks.length - 1 ≤ q.operators.length)
    (selection : Selection) (texts : Field → String) :
    (c.evaluate selection texts).names = (q.foundBlocks selection texts).map Block.name ∧
      (c.evaluate selection texts).hits = (q.foundBlocks selection texts).map fun b =>
        (b.name, .ofFun (b.termsIn q.caseInsensitive selection texts)) := by
  unfold CompiledQuery.evaluate
  rw [CompiledQuery.evaluateTexts_of_compile hc]
  obtain ⟨hns, hhits⟩ := Query.evaluation_reports hnames hops
    fun f => if selection.selects f then texts f else ""
  rw [Query.entries_selected] at hns hhits
  rw [keys_map_entry] at hns
  exact ⟨hns, hhits⟩

/-- **What an evaluation reports.** For blocks with names of their own and operators for all of
them, these are the usable blocks that are not excluded and are found in a selected field, in
order, each with the terms that are found in each field. It depends neither on the operators nor
on the values that they join. A query can be evaluated whenever its terms have patterns. -/
theorem Query.evaluate_reports {q : Query} (hnames : q.hasUniqueNames = true)
    (hops : q.usableBlocks.length - 1 ≤ q.operators.length) :
    ((∃ c, q.compile = .ok c) ↔ ∀ b ∈ q.usableBlocks, ∀ t ∈ b.usableTerms,
      ∃ p, Term.compile t b.isRegex q.caseInsensitive = .ok p) ∧
    ∀ c, q.compile = .ok c → ∀ (selection : Selection) (texts : Field → String),
      (c.evaluate selection texts).hits.keys = (q.foundBlocks selection texts).map Block.name ∧
      (∀ b ∈ q.foundBlocks selection texts, ∃ h,
        (c.evaluate selection texts).hits.lookup b.name = some h ∧
        ∀ f, h.get f = b.termsIn q.caseInsensitive selection texts f) ∧
      (c.evaluate selection texts).names = (c.evaluate selection texts).hits.keys ∧
      (∀ b ∈ q.blocks, b.exclude = true → b.name ∉ (c.evaluate selection texts).hits.keys) ∧
      (∀ os : List Operator, q.usableBlocks.length - 1 ≤ os.length →
        ∃ c', Query.compile { q with operators := os } = .ok c' ∧
          (c'.evaluate selection texts).SameReports (c.evaluate selection texts)) ∧
      (∀ (v v' : Bool) (names : List String) (hits : HitMap)
        (joined joined' : List (Operator × CompiledBlock)),
        joined.map Prod.snd = joined'.map Prod.snd →
          (foldBlocks texts ⟨v, names, hits⟩ joined).SameReports
            (foldBlocks texts ⟨v', names, hits⟩ joined')) := by
  refine ⟨Query.exists_compile_iff, fun c hc selection texts => ?_⟩
  obtain ⟨hns, hhits⟩ := CompiledQuery.evaluate_reports_eq hc hnames hops selection texts
  have hkeys : (c.evaluate selection texts).hits.keys =
      (q.foundBlocks selection texts).map Block.name := by
    rw [hhits, keys_map_entry]
  refine ⟨hkeys, ?terms, by rw [hkeys, hns], ?excluded, ?operators, ?values⟩
  case terms =>
    intro b hb
    refine ⟨_, ?_, fun f => FieldHits.get_ofFun _ f⟩
    rw [hhits]
    have hnodup := (Query.nodup_usableNames hnames).sublist
      ((List.filter_sublist (p := fun b =>
        !b.exclude && b.isFoundIn q.caseInsensitive selection texts)).map Block.name)
    exact lookup_map_of_nodup _ hb hnodup
  case excluded =>
    intro b hb hexclude
    rw [hkeys]
    exact Query.excluded_not_mem_foundBlocks hnames selection texts hb hexclude
  case operators =>
    intro os hos
    -- The blocks, and so the patterns and what is found, are those of `q`.
    have hpatterns := Query.exists_compile_iff.mp ⟨c, hc⟩
    obtain ⟨c', hc'⟩ := Query.exists_compile (q := { q with operators := os }) hpatterns
    obtain ⟨hns', hhits'⟩ := CompiledQuery.evaluate_reports_eq hc' hnames hos selection texts
    exact ⟨c', hc', hns'.trans hns.symm, hhits'.trans hhits.symm⟩
  case values =>
    intro v v' names hits joined joined' hblocks
    exact foldBlocks_reports_eq texts hblocks ⟨rfl, rfl⟩

/-- A query with an expression, an excluded block and a block of no usable term. -/
def mixedQuery : Query where
  blocks := [⟨"A", ["gamma", " ", "al*"], false, false, newBlockId⟩,
    ⟨"B", [""], false, false, newBlockId⟩, ⟨"C", ["delta"], false, true, newBlockId⟩,
    ⟨"D", ["b(e|i)ta", "x*"], true, false, newBlockId⟩]
  operators := [.and, .or]

/-- A record that has nothing but a title. -/
def titledTexts : Field → String
  | .title => "Alpha, beta"
  | _ => ""

theorem mixedQuery_evaluate_reports :
    mixedQuery.hasUniqueNames = true ∧
    mixedQuery.usableBlocks.length - 1 ≤ mixedQuery.operators.length ∧
    ∃ c, mixedQuery.compile = .ok c ∧
      (c.evaluate {} titledTexts).hits.keys = ["A", "D"] ∧
      (c.evaluate { title := false } titledTexts).hits.keys = [] := by
  have hnames : mixedQuery.hasUniqueNames = true := by decide
  have hops : mixedQuery.usableBlocks.length - 1 ≤ mixedQuery.operators.length := by decide
  obtain ⟨c, hc⟩ : ∃ c, mixedQuery.compile = .ok c := ⟨_, rfl⟩
  obtain ⟨-, hreports⟩ := Query.evaluate_reports hnames hops
  refine ⟨hnames, hops, c, hc, ?_, ?_⟩
  · exact (hreports c hc {} titledTexts).1.trans (by decide)
  · exact (hreports c hc { title := false } titledTexts).1.trans (by decide)

end CiteSieve
