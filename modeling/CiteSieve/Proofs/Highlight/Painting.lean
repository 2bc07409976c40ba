import CiteSieve.Proofs.Highlight.Occurrences
import CiteSieve.Proofs.Highlight.Segments
import CiteSieve.Proofs.Term.Order

/-!
# Painting a text

The hits of a run are looked for again in the text where they hit, and the text is cut along what
is found. Whatever the hits are, each range that is painted stands for itself in the text and
belongs to a block that hit there, and the runs of the painted text are the text.

* `Highlighter.exists_patterns`: a block has its patterns when its terms have theirs.
* `Highlighter.mem_spansOf`: what the patterns find are ranges of the text.
* `Highlighter.spans_chosen`: the spans of a text are among those that each hit adds.
* `Highlighter.spans_segments`: the search ends, and a painted text keeps its characters.
-/

namespace CiteSieve

namespace Highlighter

variable {h : Highlighter}

/-! ## Patterns -/

/-- The terms of a block of regular expressions have their patterns; those of another block need
none of their own. -/
def HasPatterns (h : Highlighter) (block : String) (terms : List String) : Prop :=
  h.regexBlocks.contains block = true → ∀ t ∈ terms, Term.isUsable t = true →
    ∃ p, Term.compile t true h.caseInsensitive = .ok p

theorem exists_patterns {block : String} {terms : List String}
    (hterms : h.HasPatterns block terms) : ∃ ps, h.patterns block terms = .ok ps := by
  unfold patterns
  by_cases hregex : h.regexBlocks.contains block = true
  · rw [if_pos hregex]
    refine exists_mapM_eq_ok fun t ht => ?_
    obtain ⟨hmem, husable⟩ := Term.mem_longestFirst_iff.mp ht
    exact hterms hregex t hmem husable
  · -- All terms make up one pattern; where there is none, no term is usable.
    rw [if_neg hregex]
    unfold Term.alternation Term.patterns
    cases Term.longestFirst terms with
    | nil => exact ⟨[], rfl⟩
    | cons t ts => exact ⟨_, rfl⟩

/-! ## Spans -/

theorem mem_spansOf {block text : String} {ps : List Pattern} {s : Span}
    (hs : s ∈ spansOf block text ps) : s.IsIn text ∧ s.blockName = block := by
  obtain ⟨p, -, hs⟩ := List.mem_flatMap.mp hs
  obtain ⟨m, hm, rfl⟩ := List.mem_map.mp hs
  obtain ⟨hlt, hle⟩ := Pattern.mem_occurrences hm
  exact ⟨⟨hlt, hle, rfl⟩, rfl⟩

/-- The spans that a block adds to a field. -/
def spansIn (h : Highlighter) (text : String) (field : Field) (hit : String × FieldHits) :
    Except Regex.Error (List Span) :=
  if hit.2.get field = [] then .ok [] else h.findSpans text hit.1 (hit.2.get field)

theorem exists_spansIn {text : String} {field : Field} {hit : String × FieldHits}
    (hterms : h.HasPatterns hit.1 (hit.2.get field)) :
    ∃ ss, h.spansIn text field hit = .ok ss := by
  unfold spansIn
  split
  · exact ⟨[], rfl⟩
  · obtain ⟨ps, hps⟩ := exists_patterns hterms
    refine ⟨spansOf hit.1 text ps, ?_⟩
    rw [findSpans, hps]
    rfl

theorem mem_spansIn {text : String} {field : Field} {hit : String × FieldHits} {ss : List Span}
    (hss : h.spansIn text field hit = .ok ss) {s : Span} (hs : s ∈ ss) :
    s.IsIn text ∧ s.blockName = hit.1 ∧ hit.2.get field ≠ [] := by
  unfold spansIn at hss
  split at hss
  · cases hss
    exact absurd hs List.not_mem_nil
  · rename_i hne
    obtain ⟨ps, -, rfl⟩ := Except.map_eq_ok hss
    obtain ⟨hin, hname⟩ := mem_spansOf hs
    exact ⟨hin, hname, hne⟩

theorem spans_eq {text : String} (htext : text ≠ "") (field : Field) (hits : HitMap) :
    h.spans text field hits = (hits.mapM (h.spansIn text field)).map
      fun found => Span.resolveOverlaps found.flatten := by
  unfold spans
  rw [if_neg htext]
  rfl

theorem exists_spans (text : String) {field : Field} {hits : HitMap}
    (hterms : ∀ hit ∈ hits, h.HasPatterns hit.1 (hit.2.get field)) :
    ∃ ss, h.spans text field hits = .ok ss := by
  by_cases htext : text = ""
  · exact ⟨[], if_pos htext⟩
  · have heach : ∀ hit ∈ hits, ∃ ss, h.spansIn text field hit = .ok ss := by
      intro hit hhit
      exact exists_spansIn (hterms hit hhit)
    obtain ⟨found, hfound⟩ := exists_mapM_eq_ok heach
    refine ⟨Span.resolveOverlaps found.flatten, ?_⟩
    rw [spans_eq htext, hfound]
    rfl

/-- **The spans are chosen** among those that the hits add. -/
theorem spans_chosen {text : String} {field : Field} {hits : HitMap} {ss : List Span}
    (hss : h.spans text field hits = .ok ss) (htext : text ≠ "") :
    ∃ added, ss = Span.resolveOverlaps added ∧ ∀ s, s ∈ added ↔
      ∃ hit ∈ hits, ∃ ss', h.spansIn text field hit = .ok ss' ∧ s ∈ ss' := by
  rw [spans_eq htext] at hss
  obtain ⟨found, hfound, rfl⟩ := Except.map_eq_ok hss
  have heach := forall₂_of_mapM_eq_ok hfound
  refine ⟨found.flatten, rfl, fun s => ?_⟩
  rw [List.mem_flatten]
  constructor
  · rintro ⟨ss', hss', hs⟩
    obtain ⟨hit, hhit, hok⟩ := exists_of_mem_forall₂ heach.flip ss' hss'
    exact ⟨hit, hhit, ss', hok, hs⟩
  · rintro ⟨hit, hhit, ss', hok, hs⟩
    obtain ⟨ss'', hmem, hok'⟩ := exists_of_mem_forall₂ heach hit hhit
    cases hok.symm.trans hok'
    exact ⟨ss', hmem, hs⟩

/-- Every span comes from one of the hits. -/
theorem exists_of_mem_spans {text : String} {field : Field} {hits : HitMap} {ss : List Span}
    (hss : h.spans text field hits = .ok ss) {s : Span} (hs : s ∈ ss) :
    ∃ hit ∈ hits, ∃ ss', h.spansIn text field hit = .ok ss' ∧ s ∈ ss' := by
  by_cases htext : text = ""
  · rw [spans, if_pos htext] at hss
    cases hss
    exact absurd hs List.not_mem_nil
  · obtain ⟨added, rfl, hadded⟩ := spans_chosen hss htext
    exact (hadded s).mp (Span.mem_of_mem_resolveOverlaps hs)

/-- A hit that has spans is not lost among the others. -/
theorem spans_ne_nil {text : String} {field : Field} {hits : HitMap} {ss ss' : List Span}
    (hss : h.spans text field hits = .ok ss) (htext : text ≠ "") {hit : String × FieldHits}
    (hhit : hit ∈ hits) (hss' : h.spansIn text field hit = .ok ss') (hne : ss' ≠ []) :
    ss ≠ [] := by
  obtain ⟨added, rfl, hadded⟩ := spans_chosen hss htext
  obtain ⟨s, hs⟩ := List.exists_mem_of_ne_nil _ hne
  exact Span.resolveOverlaps_ne_nil
    (List.ne_nil_of_mem ((hadded s).mpr ⟨hit, hhit, ss', hss', hs⟩))

theorem spans_spec {text : String} {field : Field} {hits : HitMap} {ss : List Span}
    (hss : h.spans text field hits = .ok ss) :
    (∀ s ∈ ss, s.IsIn text ∧ ∃ fh, (s.blockName, fh) ∈ hits ∧ fh.get field ≠ []) ∧
      ss.Pairwise Span.IsBefore := by
  constructor
  · intro s hs
    obtain ⟨hit, hhit, ss', hok, hs'⟩ := exists_of_mem_spans hss hs
    obtain ⟨hin, hname, hne⟩ := mem_spansIn hok hs'
    exact ⟨hin, hit.2, hname ▸ hhit, hne⟩
  · by_cases htext : text = ""
    · rw [spans, if_pos htext] at hss
      cases hss
      exact .nil
    · obtain ⟨added, rfl, hadded⟩ := spans_chosen hss htext
      refine Span.resolveOverlaps_pairwise fun s hs => ?_
      obtain ⟨hit, -, ss', hok, hs'⟩ := (hadded s).mp hs
      exact (mem_spansIn hok hs').1.start_lt

end Highlighter

/-! ## Runs -/

theorem join_segments {text : String} {ss : List Span} (h : Span.StandFrom text 0 ss) :
    String.join ((segments text ss).map Segment.text) = text := by
  rw [← String.toList_inj, String.toList_join, List.flatMap_map]
  exact flatMap_segmentsFrom h

/-- **A painted text keeps its characters.** When the terms of the blocks of expressions have
patterns, the search of every pattern ends and the spans are there: ranges of the text that are not
empty, each with what the text reads there and with a block that hit the field, one after the
other. The runs along them are not empty, make up the text, and the labelled ones are the spans. -/
theorem Highlighter.spans_segments (h : Highlighter) (text : String) (field : Field)
    (hits : HitMap) (hterms : ∀ hit ∈ hits, h.regexBlocks.contains hit.1 = true →
      ∀ t ∈ hit.2.get field, Term.isUsable t = true →
        ∃ p, Term.compile t true h.caseInsensitive = .ok p) :
    (∀ hit ∈ hits, ∃ ps, h.patterns hit.1 (hit.2.get field) = .ok ps ∧
      h.findSpans text hit.1 (hit.2.get field) = .ok (spansOf hit.1 text ps) ∧
      ∀ p ∈ ps, ∀ ms, Pattern.Loop p text.toList.toArray 0 ms ↔ ms = p.occurrences text) ∧
    ∃ ss, h.spans text field hits = .ok ss ∧
      (∀ s ∈ ss, (s.start < s.stop ∧ s.stop ≤ text.length) ∧
        s.text = Text.slice text s.start s.stop ∧
        ∃ fh, (s.blockName, fh) ∈ hits ∧ fh.get field ≠ []) ∧
      ss.Pairwise Span.IsBefore ∧
      (∀ r ∈ segments text ss, r.text ≠ "") ∧
      String.join ((segments text ss).map Segment.text) = text ∧
      Segment.spansFrom 0 (segments text ss) = ss := by
  constructor
  · intro hit hhit
    obtain ⟨ps, hps⟩ := exists_patterns (hterms hit hhit)
    refine ⟨ps, hps, ?_, fun p _ ms => Pattern.loop_iff p text ms⟩
    rw [findSpans, hps]
    rfl
  · obtain ⟨ss, hss⟩ := exists_spans text hterms
    obtain ⟨hmem, hbefore⟩ := spans_spec hss
    have hstand : Span.StandFrom text 0 ss :=
      .of_pairwise (Nat.zero_le _) (fun s _ => Nat.zero_le s.start) (fun s hs => (hmem s hs).1)
        hbefore
    refine ⟨ss, hss, ?_, hbefore, segmentsFrom_ne_empty hstand, join_segments hstand,
      spansFrom_segmentsFrom hstand⟩
    intro s hs
    obtain ⟨hin, hname⟩ := hmem s hs
    exact ⟨⟨hin.start_lt, hin.stop_le⟩, hin.text_eq, hname⟩

/-- Hits of a word in another field, and of an expression that also matches nothing. -/
def starredHits : HitMap :=
  [("Words", ⟨[], ["y"], []⟩), ("Forms", ⟨["x*"], [], []⟩)]

theorem starredHits_spans_segments :
    ∃ ss, Highlighter.spans { regexBlocks := ["Forms"] } "-xx y" .title starredHits = .ok ss ∧
      ss = [⟨1, 3, "Forms", "xx"⟩] ∧
      String.join ((segments "-xx y" ss).map Segment.text) = "-xx y" ∧
      Segment.spansFrom 0 (segments "-xx y" ss) = ss := by
  have hterms : ∀ hit ∈ starredHits, ["Forms"].contains hit.1 = true →
      ∀ t ∈ hit.2.get .title, Term.isUsable t = true →
        ∃ p, Term.compile t true true = .ok p := by
    intro hit hhit hregex t ht _
    rcases List.mem_cons.mp hhit with rfl | hhit
    · exact absurd hregex (by decide)
    · rw [List.mem_singleton.mp hhit] at ht
      rw [List.mem_singleton.mp ht]
      exact ⟨_, rfl⟩
  obtain ⟨-, ss, hss, -, -, -, hjoin, hlabelled⟩ :=
    Highlighter.spans_segments { regexBlocks := ["Forms"] } "-xx y" .title starredHits hterms
  have hspans : Highlighter.spans { regexBlocks := ["Forms"] } "-xx y" .title starredHits =
      .ok [⟨1, 3, "Forms", "xx"⟩] := by
    decide +kernel
  exact ⟨ss, hss, Except.ok.inj (hss.symm.trans hspans), hjoin, hlabelled⟩

end CiteSieve
