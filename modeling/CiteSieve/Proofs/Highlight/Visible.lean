import CiteSieve.Proofs.Highlight.Painting
import CiteSieve.Proofs.Run.Classified
import CiteSieve.Proofs.Term.Joined

/-!
# Every hit is visible

What a run finds in a record is found again when the record is painted, although the terms are
compiled anew then: the plain terms of a block in one pattern, the others one by one.

* `Term.lt_stop_of_finds`: a plain term that is found matches more than nothing.
* `Highlighter.exists_of_mem_spansIn`, `Highlighter.spansIn_ne_nil`: what a hit is painted with.
* `Run.exists_block_of_mem_hits`: the hits of an item are those of a block of the query.
* `Run.highlight_shows_hits`: every hit is painted, and nothing else.
-/

namespace CiteSieve

/-! ## Plain terms find more than nothing -/

/-- **The first match of a plain term** is not empty. -/
theorem Term.lt_stop_of_finds {t text : String} {isRegex caseInsensitive : Bool}
    {m : Regex.Match} (hplain : isRegex = true → hasMetachar t = false)
    (husable : isUsable t = true) (hm : Finds t isRegex caseInsensitive text 0 m) :
    m.start < m.stop := by
  have hne : t.toList ≠ [] := by
    intro hnil
    rw [isUsable, Text.allBlank, hnil] at husable
    exact absurd husable (by decide)
  rw [finds_iff hplain, regexOf, scope_of_plain hplain] at hm
  obtain ⟨stem, -, hscope⟩ | ⟨-, hscope⟩ := scope_cases t
  · rw [hscope] at hm
    obtain ⟨i, rfl, -, hstands, hbefore⟩ :=
      (matchesAt_stemRegex caseInsensitive stem text.toList).search?_iff.mp hm
    cases stem with
    | nil =>
      -- Without a stem the first edge is looked for, where a word begins.
      have hfirst : ∀ j < i, ¬ IsWordEdge text.toList j := fun j hj hedge =>
        hbefore j (Nat.le_trans (Nat.min_le_left 0 _) (Nat.zero_le j)) hj
          ⟨occursAt_nil.mpr hedge.le_length, hedge⟩
      exact lt_stemStop_nil (hstands.start_edge.isWordAt hfirst)
    | cons c cs =>
      have hle : i + (c :: cs).length ≤ stemStop (c :: cs) text.toList i := le_stemStop
      rw [List.length_cons] at hle
      show i < stemStop (c :: cs) text.toList i
      omega
  · rw [hscope] at hm
    obtain ⟨i, rfl, -⟩ := (matchesAt_wordRegex _ t.toList text.toList).search?_iff.mp hm
    exact Nat.lt_add_of_pos_right (List.length_pos_iff.mpr hne)

namespace Highlighter

variable {h : Highlighter} {block text : String} {terms : List String}

/-! ## Patterns of hits -/

theorem patterns_of_regex (hregex : h.regexBlocks.contains block = true) :
    h.patterns block terms = Term.patterns terms true h.caseInsensitive := by
  rw [patterns, if_pos hregex]

theorem patterns_of_plain (hplain : h.regexBlocks.contains block = false) {p : Pattern}
    (hp : Term.alternation terms false h.caseInsensitive = .ok (some p)) :
    h.patterns block terms = .ok [p] := by
  rw [patterns, hplain, if_neg Bool.false_ne_true, hp]
  rfl

/-- **What a pattern of a block finds**, one of its terms does. -/
theorem exists_finds_of_patterns (husable : ∃ t ∈ terms, Term.isUsable t = true)
    {ps : List Pattern} (hps : h.patterns block terms = .ok ps) {p : Pattern} (hp : p ∈ ps)
    {start : Nat} {m : Regex.Match} (hm : p.search? text start = some m) :
    ∃ t ∈ terms, Term.Finds t (h.regexBlocks.contains block) h.caseInsensitive text start m := by
  cases hregex : h.regexBlocks.contains block with
  | true =>
    rw [patterns_of_regex hregex] at hps
    obtain ⟨t, ht, hcompile⟩ := exists_of_mem_forall₂ (forall₂_of_mapM_eq_ok hps).flip p hp
    exact ⟨t, (Term.mem_longestFirst_iff.mp ht).1, p, hcompile, hm⟩
  | false =>
    have hplain : ∀ t ∈ terms, false = true → Term.hasMetachar t = false := fun t _ => nofun
    obtain ⟨p', -, hp', -⟩ := Term.exists_alternation hplain husable h.caseInsensitive
    cases (patterns_of_plain hregex hp').symm.trans hps
    rw [List.mem_singleton.mp hp] at hm
    obtain ⟨t, ht⟩ := Term.exists_findsFirst hplain husable hp' hm
    exact ⟨t, ht.mem, ht.finds⟩

/-- **A term that is found** makes some pattern of its block find something, if the term is plain or
its match is not empty. -/
theorem exists_occurrence {ps : List Pattern} (hps : h.patterns block terms = .ok ps) {t : String}
    (ht : t ∈ terms) (husable : Term.isUsable t = true) {m : Regex.Match}
    (hm : Term.Finds t (h.regexBlocks.contains block) h.caseInsensitive text 0 m)
    (hfull : h.regexBlocks.contains block = true → m.start < m.stop) :
    ∃ p ∈ ps, ∃ m', m' ∈ p.occurrences text := by
  cases hregex : h.regexBlocks.contains block with
  | true =>
    rw [patterns_of_regex hregex] at hps
    rw [hregex] at hm
    obtain ⟨p', hcompile, hm⟩ := hm
    obtain ⟨p, hp, hcompile'⟩ := exists_of_mem_forall₂ (forall₂_of_mapM_eq_ok hps) t
      (Term.mem_longestFirst_iff.mpr ⟨ht, husable⟩)
    cases hcompile.symm.trans hcompile'
    exact ⟨p', hp, m, Pattern.mem_occurrences_of_search? hm (hfull hregex)⟩
  | false =>
    have hplain : ∀ t ∈ terms, false = true → Term.hasMetachar t = false := fun t _ => nofun
    rw [hregex] at hm
    obtain ⟨p, -, hp, -⟩ := Term.exists_alternation hplain ⟨t, ht, husable⟩ h.caseInsensitive
    cases (patterns_of_plain hregex hp).symm.trans hps
    obtain ⟨m', hm'⟩ := Term.exists_search?_alternation hplain hp ht husable hm
    obtain ⟨t', ht'⟩ := Term.exists_findsFirst hplain ⟨t, ht, husable⟩ hp hm'
    exact ⟨p, List.mem_singleton.mpr rfl, m', Pattern.mem_occurrences_of_search? hm'
      (Term.lt_stop_of_finds (hplain t' ht'.mem) ht'.usable ht'.finds)⟩

/-! ## Spans of hits -/

variable {field : Field} {hit : String × FieldHits} {ss : List Span}

/-- **A span of a hit** is a match of one of its terms. -/
theorem exists_of_mem_spansIn (hss : h.spansIn text field hit = .ok ss)
    (husable : ∀ t ∈ hit.2.get field, Term.isUsable t = true) {s : Span} (hs : s ∈ ss) :
    s.blockName = hit.1 ∧ ∃ t ∈ hit.2.get field, ∃ m,
      Term.Finds t (h.regexBlocks.contains hit.1) h.caseInsensitive text s.start m ∧
        m.start = s.start ∧ m.stop = s.stop := by
  obtain ⟨-, hname, hne⟩ := mem_spansIn hss hs
  rw [spansIn, if_neg hne] at hss
  obtain ⟨ps, hps, rfl⟩ := Except.map_eq_ok hss
  obtain ⟨p, hp, hs⟩ := List.mem_flatMap.mp hs
  obtain ⟨m, hm, rfl⟩ := List.mem_map.mp hs
  obtain ⟨t₀, ht₀⟩ := List.exists_mem_of_ne_nil _ hne
  obtain ⟨t, ht, hfinds⟩ := exists_finds_of_patterns ⟨t₀, ht₀, husable t₀ ht₀⟩ hps hp
    (Pattern.search?_of_mem_occurrences hm)
  exact ⟨hname, t, ht, m, hfinds, rfl, rfl⟩

/-- **A hit has a span**, if its term is plain or matches more than nothing. -/
theorem spansIn_ne_nil (hss : h.spansIn text field hit = .ok ss) {t : String}
    (ht : t ∈ hit.2.get field) (husable : Term.isUsable t = true) {m : Regex.Match}
    (hm : Term.Finds t (h.regexBlocks.contains hit.1) h.caseInsensitive text 0 m)
    (hfull : h.regexBlocks.contains hit.1 = true → m.start < m.stop) : ss ≠ [] := by
  rw [spansIn, if_neg (List.ne_nil_of_mem ht)] at hss
  obtain ⟨ps, hps, rfl⟩ := Except.map_eq_ok hss
  obtain ⟨p, hp, m', hm'⟩ := exists_occurrence hps ht husable hm hfull
  exact List.ne_nil_of_mem (List.mem_flatMap.mpr ⟨p, hp, List.mem_map_of_mem hm'⟩)

end Highlighter

/-! ## Hits of items -/

theorem Term.exists_finds_of_isFound {t text : String} {isRegex caseInsensitive : Bool}
    (h : isFound t isRegex caseInsensitive text = true) :
    ∃ m, Finds t isRegex caseInsensitive text 0 m := by
  unfold isFound at h
  split at h
  · rename_i p hp
    obtain ⟨m, hm⟩ := Option.isSome_iff_exists.mp h
    exact ⟨m, p, hp, hm⟩
  · cases h

/-- The blocks of expressions are known by their names. -/
theorem CompiledQuery.contains_regexNames {q : Query} {c : CompiledQuery} (hc : q.compile = .ok c)
    (hnames : q.hasUniqueNames = true) {b : Block} (hb : b ∈ q.usableBlocks) :
    c.regexNames.contains b.name = b.isRegex := by
  have hblocks := Query.map_block_of_compile hc
  rw [Bool.eq_iff_iff, List.contains_iff_mem, regexNames, List.mem_eraseDups, List.mem_map]
  constructor
  · rintro ⟨cb, hcb, hname⟩
    obtain ⟨hcb, hregex⟩ := List.mem_filter.mp hcb
    have hmem : cb.block ∈ q.usableBlocks := hblocks ▸ List.mem_map_of_mem hcb
    rwa [← Query.eq_of_name_eq hnames (List.mem_filter.mp hmem).1 (List.mem_filter.mp hb).1 hname]
  · intro hregex
    rw [← hblocks] at hb
    obtain ⟨cb, hcb, rfl⟩ := List.mem_map.mp hb
    exact ⟨cb, List.mem_filter.mpr ⟨hcb, hregex⟩, rfl⟩

theorem Query.caseInsensitive_of_compile {q : Query} {c : CompiledQuery}
    (h : q.compile = .ok c) : c.caseInsensitive = q.caseInsensitive := by
  obtain ⟨bs, -, h⟩ := Except.bind_eq_ok h
  cases h
  rfl

/-- What hit a field is usable, and is found in its text. -/
theorem Block.mem_termsIn {b : Block} {caseInsensitive : Bool} {selection : Selection}
    {texts : Field → String} {f : Field} {t : String}
    (ht : t ∈ b.termsIn caseInsensitive selection texts f) :
    texts f ≠ "" ∧ Term.isUsable t = true ∧
      ∃ m, Term.Finds t b.isRegex caseInsensitive (texts f) 0 m := by
  unfold Block.termsIn at ht
  split at ht
  · rename_i hshown
    obtain ⟨hterm, hfound⟩ := List.mem_filter.mp ht
    exact ⟨hshown.2, (List.mem_filter.mp hterm).2, Term.exists_finds_of_isFound hfound⟩
  · exact absurd ht List.not_mem_nil

namespace Run

variable {q : Query}

/-- The hits are those of the block: the run knows whether it holds expressions, and its terms that
hit are found in the texts of the record. -/
structure IsHitOf (r : Run) (q : Query) (x : Record) (hit : String × FieldHits) (b : Block) :
    Prop where
  name : hit.1 = b.name
  regex : r.highlighter.regexBlocks.contains hit.1 = b.isRegex
  text_ne : ∀ {f t}, t ∈ hit.2.get f → x.text f ≠ ""
  usable : ∀ {f t}, t ∈ hit.2.get f → Term.isUsable t = true
  finds : ∀ {f t}, t ∈ hit.2.get f →
    ∃ m, Term.Finds t b.isRegex q.caseInsensitive (x.text f) 0 m

/-- **The hits of an item** are those of a block of the query. -/
theorem exists_isHitOf (hnames : q.hasUniqueNames = true) {rs : List Record} {r : Run}
    (hr : ofRecords q rs = .ok r) {o : Outcome} {i : Item} (hi : i ∈ r.itemsOf o)
    {hit : String × FieldHits} (hhit : hit ∈ i.hits) :
    ∃ b ∈ q.blocks, r.IsHitOf q i.record hit b := by
  obtain ⟨c, hc, rfl⟩ := ofRecords_eq_ok hr
  obtain ⟨-, -, hhits⟩ := item_ofCompiled hc hnames hi
  rw [hhits, CompiledQuery.evaluateRecord, CompiledQuery.evaluate,
    CompiledQuery.evaluateTexts_of_compile hc, (Query.evaluation_reports_reached hnames _).2,
    flatMap_entries] at hhit
  obtain ⟨b, hb, rfl⟩ := List.mem_map.mp hhit
  have husable : b ∈ q.usableBlocks := (List.take_sublist _ _).subset (List.mem_filter.mp hb).1
  have hterms : ∀ {f t}, t ∈ (b.hitsIn q.caseInsensitive fun f =>
      if q.searchFields.selects f then i.record.text f else "").get f →
      t ∈ b.termsIn q.caseInsensitive q.searchFields i.record.text f :=
    fun ht => by rwa [← b.get_hitsIn_selected]
  exact ⟨b, (List.mem_filter.mp husable).1, rfl,
    CompiledQuery.contains_regexNames hc hnames husable,
    fun ht => (Block.mem_termsIn (hterms ht)).1, fun ht => (Block.mem_termsIn (hterms ht)).2.1,
    fun ht => (Block.mem_termsIn (hterms ht)).2.2⟩

theorem caseInsensitive_highlighter {rs : List Record} {r : Run} (hr : ofRecords q rs = .ok r) :
    r.highlighter.caseInsensitive = q.caseInsensitive := by
  obtain ⟨c, hc, rfl⟩ := ofRecords_eq_ok hr
  exact Query.caseInsensitive_of_compile hc

theorem mem_itemsOf_of_mem_append {r : Run} {i : Item} (h : i ∈ r.matched ++ r.partialMatch) :
    ∃ o, i ∈ r.itemsOf o := by
  rcases List.mem_append.mp h with hi | hi
  · exact ⟨.matched, hi⟩
  · exact ⟨.partialMatch, hi⟩

/-- The terms that hit have patterns. -/
theorem IsHitOf.hasPatterns {r : Run} {x : Record} {hit : String × FieldHits} {b : Block}
    (h : r.IsHitOf q x hit b) (hci : r.highlighter.caseInsensitive = q.caseInsensitive)
    (f : Field) : r.highlighter.HasPatterns hit.1 (hit.2.get f) := by
  intro hregex t ht _
  obtain ⟨m, p, hp, -⟩ := h.finds ht
  rw [← h.regex, hregex, ← hci] at hp
  exact ⟨p, hp⟩

/-- **Every hit is visible.** A matched or partial record can be painted, field by field. If a block
with hits in the field is plain, or one of its terms that hit the field matches at first more than
nothing, something is painted; and each span that is painted is that of a block with hits in the
field, and is a match of one of the terms that hit it. -/
theorem highlight_shows_hits {q : Query} (hnames : q.hasUniqueNames = true) {rs : List Record}
    {r : Run} (hr : ofRecords q rs = .ok r) {i : Item} (hi : i ∈ r.matched ++ r.partialMatch)
    (f : Field) :
    (∀ hit ∈ i.hits, ∃ b ∈ q.blocks, b.name = hit.1) ∧
    ∃ ss, r.highlight i f = .ok ss ∧
      ((∃ b ∈ q.blocks, ∃ fh, (b.name, fh) ∈ i.hits ∧ fh.get f ≠ [] ∧
        (b.isRegex = false ∨ ∃ t ∈ fh.get f, ∃ m,
          Term.Finds t b.isRegex q.caseInsensitive (i.record.text f) 0 m ∧ m.start < m.stop)) →
        ss ≠ []) ∧
      ∀ s ∈ ss, ∃ b ∈ q.blocks, b.name = s.blockName ∧ ∃ fh, (b.name, fh) ∈ i.hits ∧
        ∃ t ∈ fh.get f, ∃ m,
          Term.Finds t b.isRegex q.caseInsensitive (i.record.text f) s.start m ∧
            m.start = s.start ∧ m.stop = s.stop := by
  obtain ⟨o, hi⟩ := mem_itemsOf_of_mem_append hi
  have hci := caseInsensitive_highlighter hr
  have hblock : ∀ hit ∈ i.hits, ∃ b ∈ q.blocks, r.IsHitOf q i.record hit b :=
    fun hit hhit => exists_isHitOf hnames hr hi hhit
  have hpatterns : ∀ hit ∈ i.hits, r.highlighter.HasPatterns hit.1 (hit.2.get f) := by
    intro hit hhit
    obtain ⟨b, -, hb⟩ := hblock hit hhit
    exact hb.hasPatterns hci f
  obtain ⟨ss, hss⟩ := Highlighter.exists_spans (i.record.text f) hpatterns
  refine ⟨fun hit hhit => ?named, ss, hss, ?shown, fun s hs => ?found⟩
  case named =>
    obtain ⟨b, hb, hhit⟩ := hblock hit hhit
    exact ⟨b, hb, hhit.name.symm⟩
  case shown =>
    rintro ⟨b, hb, fh, hhit, hne, hfull⟩
    obtain ⟨b', hb', h⟩ := hblock _ hhit
    cases List.inj_on_of_nodup_map (of_decide_eq_true hnames) hb hb' h.name
    obtain ⟨t, ht, m, hm, hlt⟩ : ∃ t ∈ fh.get f, ∃ m,
        Term.Finds t b.isRegex q.caseInsensitive (i.record.text f) 0 m ∧
          (b.isRegex = true → m.start < m.stop) := by
      rcases hfull with hplain | ⟨t, ht, m, hm, hlt⟩
      · obtain ⟨t, ht⟩ := List.exists_mem_of_ne_nil _ hne
        obtain ⟨m, hm⟩ := h.finds ht
        exact ⟨t, ht, m, hm, fun hregex => absurd (hplain.symm.trans hregex) nofun⟩
      · exact ⟨t, ht, m, hm, fun _ => hlt⟩
    rw [← h.regex, ← hci] at hm
    rw [← h.regex] at hlt
    obtain ⟨ss', hss'⟩ := Highlighter.exists_spansIn (hpatterns _ hhit)
    exact Highlighter.spans_ne_nil hss (h.text_ne ht) hhit hss'
      (Highlighter.spansIn_ne_nil hss' ht (h.usable ht) hm hlt)
  case found =>
    obtain ⟨hit, hhit, ss', hss', hs'⟩ := Highlighter.exists_of_mem_spans hss hs
    obtain ⟨b, hb, h⟩ := hblock hit hhit
    obtain ⟨hname, t, ht, m, hm, hrange⟩ :=
      Highlighter.exists_of_mem_spansIn hss' (fun t ht => h.usable ht) hs'
    rw [h.regex, hci] at hm
    have hname' : b.name = hit.1 := h.name.symm
    exact ⟨b, hb, hname'.trans hname.symm, hit.2, hname' ▸ hhit, t, ht, m, hm, hrange⟩

/-- What the survey finds in the record that has all that is wanted. -/
def surveyedItem : Item where
  record := ⟨"misc", "both", [("title", "Alpha"), ("summary", "beta")]⟩
  outcome := .matched
  names := ["A", "B"]
  hits := [("A", ⟨["alpha"], [], []⟩), ("B", ⟨[], ["b(e|i)ta"], []⟩)]

theorem highlight_shows_hits_surveyed :
    survey.hasUniqueNames = true ∧ ∃ r, ofRecords survey surveyed = .ok r ∧
      surveyedItem ∈ r.matched ++ r.partialMatch ∧
      (∃ ss, r.highlight surveyedItem .title = .ok ss ∧ ss ≠ [] ∧
        ∀ s ∈ ss, ∃ b ∈ survey.blocks, b.name = s.blockName) ∧
      ∃ ss, r.highlight surveyedItem .abstract = .ok ss ∧ ss ≠ [] := by
  have hnames : survey.hasUniqueNames = true := by decide
  obtain ⟨r, hr, hi⟩ : ∃ r, ofRecords survey surveyed = .ok r ∧
      surveyedItem ∈ r.matched ++ r.partialMatch := ⟨_, rfl, by decide +kernel⟩
  obtain ⟨-, ss, hss, hshown, hfound⟩ := highlight_shows_hits hnames hr hi .title
  obtain ⟨-, ss', hss', hshown', -⟩ := highlight_shows_hits hnames hr hi .abstract
  refine ⟨hnames, r, hr, hi, ⟨ss, hss, hshown ?_, fun s hs => ?_⟩, ss', hss', hshown' ?_⟩
  · -- The block of words.
    exact ⟨_, List.mem_cons_self, _, List.mem_cons_self, by decide, .inl rfl⟩
  · obtain ⟨b, hb, hname, -⟩ := hfound s hs
    exact ⟨b, hb, hname⟩
  · -- The block of expressions.
    refine ⟨_, List.mem_cons_of_mem _ List.mem_cons_self, _,
      List.mem_cons_of_mem _ List.mem_cons_self, by decide,
      .inr ⟨_, List.mem_cons_self, ⟨0, 4, [some (1, 2)]⟩, ?_, ?_⟩⟩
    · exact ⟨_, rfl, by decide +kernel⟩
    · decide

end Run

end CiteSieve
