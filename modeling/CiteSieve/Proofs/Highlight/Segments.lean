import CiteSieve.Proofs.Highlight.Selection

/-!
# Runs of a painted text

Spans that stand one after the other in a text cut it into runs: those of the spans, and what
stands between them. Nothing is lost or doubled, and the labelled runs are the spans again.

* `Span.IsIn`, `Span.StandFrom`: a range of a text, and ranges one after the other.
* `flatMap_segmentsFrom`: the runs make up the text; `segmentsFrom_ne_empty`: none is empty.
* `spansFrom_segmentsFrom`: the labelled runs are the spans.
-/

namespace CiteSieve

/-! ## Ranges -/

/-- A range of the text that is not empty, with what the text reads there. -/
structure Span.IsIn (text : String) (s : Span) : Prop where
  start_lt : s.start < s.stop
  stop_le : s.stop ≤ text.length
  text_eq : s.text = Text.slice text s.start s.stop

/-- Ranges of the text one after the other, from `pos` on. -/
def Span.StandFrom (text : String) : (pos : Nat) → List Span → Prop
  | pos, [] => pos ≤ text.length
  | pos, s :: ss => pos ≤ s.start ∧ s.IsIn text ∧ StandFrom text s.stop ss

theorem Span.StandFrom.of_pairwise {text : String} : ∀ {ss : List Span} {pos : Nat},
    pos ≤ text.length → (∀ s ∈ ss, pos ≤ s.start) → (∀ s ∈ ss, s.IsIn text) →
    ss.Pairwise IsBefore → StandFrom text pos ss
  | [], _, hpos, _, _, _ => hpos
  | s :: ss, pos, _, hstart, hin, hbefore => by
    obtain ⟨hs, hss⟩ := List.forall_mem_cons.mp hin
    obtain ⟨hnext, hrest⟩ := List.pairwise_cons.mp hbefore
    have hstop : ∀ s' ∈ ss, s.stop ≤ s'.start := fun s' hs' => (hnext s' hs').2
    exact ⟨hstart s List.mem_cons_self, hs, of_pairwise hs.stop_le hstop hss hrest⟩

theorem length_slice {text : String} {b : Nat} (h : b ≤ text.length) (a : Nat) :
    (Text.slice text a b).length = b - a := by
  rw [← String.length_toList, Text.toList_slice, Text.length_sliceChars]
  rwa [String.length_toList]

theorem slice_ne_empty {text : String} {a b : Nat} (hab : a < b) (hb : b ≤ text.length) :
    Text.slice text a b ≠ "" := by
  intro h
  have hlen := length_slice hb a
  rw [h, String.length_empty] at hlen
  omega

/-! ## What stands between spans -/

/-- The run from `a` to `b` that belongs to no block, if there is one. -/
def gap (text : String) (a b : Nat) : List Segment :=
  if a < b then [⟨Text.slice text a b, none⟩] else []

theorem segmentsFrom_nil (text : String) (pos : Nat) :
    segmentsFrom text pos [] = gap text pos text.length := rfl

theorem segmentsFrom_cons (text : String) (pos : Nat) (s : Span) (ss : List Span) :
    segmentsFrom text pos (s :: ss) = gap text pos s.start ++
      ⟨Text.slice text s.start s.stop, some s.blockName⟩ :: segmentsFrom text s.stop ss := by
  rw [segmentsFrom, gap]
  split
  · rfl
  · rfl

theorem flatMap_gap (text : String) {a b : Nat} (hab : a ≤ b) :
    (gap text a b).flatMap (fun r => r.text.toList) = Text.sliceChars text.toList a b := by
  unfold gap
  split
  · simp
  · have heq : a = b := by omega
    have hlen : (text.toList.take b).length ≤ b := by
      rw [List.length_take]
      exact Nat.min_le_left _ _
    rw [heq, List.flatMap_nil, Text.sliceChars, List.drop_eq_nil_of_le hlen]

theorem gap_ne_empty {text : String} {a b : Nat} (hb : b ≤ text.length) :
    ∀ r ∈ gap text a b, r.text ≠ "" := by
  intro r hr
  unfold gap at hr
  split at hr
  · rename_i hab
    rw [List.mem_singleton.mp hr]
    exact slice_ne_empty hab hb
  · exact absurd hr List.not_mem_nil

/-! ## Runs -/

/-- The labelled runs, with the ranges that they take up when the first run begins at `pos`. -/
def Segment.spansFrom : (pos : Nat) → List Segment → List Span
  | _, [] => []
  | pos, ⟨text, none⟩ :: rs => spansFrom (pos + text.length) rs
  | pos, ⟨text, some name⟩ :: rs =>
    ⟨pos, pos + text.length, name, text⟩ :: spansFrom (pos + text.length) rs

theorem spansFrom_gap {text : String} {a b : Nat} (hab : a ≤ b) (hb : b ≤ text.length)
    (rs : List Segment) : Segment.spansFrom a (gap text a b ++ rs) = Segment.spansFrom b rs := by
  unfold gap
  split
  · rw [List.singleton_append, Segment.spansFrom, length_slice hb, Nat.add_sub_cancel' hab]
  · have heq : a = b := by omega
    rw [heq, List.nil_append]

theorem segmentsFrom_ne_empty {text : String} : ∀ {ss : List Span} {pos : Nat},
    Span.StandFrom text pos ss → ∀ r ∈ segmentsFrom text pos ss, r.text ≠ ""
  | [], _, _, r, hr => gap_ne_empty (Nat.le_refl _) r hr
  | s :: ss, pos, ⟨_, hin, hss⟩, r, hr => by
    rw [segmentsFrom_cons, List.mem_append, List.mem_cons] at hr
    have hstart : s.start ≤ text.length := Nat.le_trans (Nat.le_of_lt hin.start_lt) hin.stop_le
    rcases hr with hr | rfl | hr
    · exact gap_ne_empty hstart r hr
    · exact slice_ne_empty hin.start_lt hin.stop_le
    · exact segmentsFrom_ne_empty hss r hr

/-- **The runs make up the text** from where they begin. -/
theorem flatMap_segmentsFrom {text : String} : ∀ {ss : List Span} {pos : Nat},
    Span.StandFrom text pos ss →
    (segmentsFrom text pos ss).flatMap (fun r => r.text.toList) = text.toList.drop pos
  | [], pos, hpos => by
    have hpos' : pos ≤ text.length := hpos
    rw [segmentsFrom_nil, flatMap_gap text hpos', ← String.length_toList, Text.sliceChars_length]
  | s :: ss, pos, ⟨hstart, hin, hss⟩ => by
    have hstop : pos ≤ s.stop := Nat.le_trans hstart (Nat.le_of_lt hin.start_lt)
    have hlen : s.stop ≤ text.toList.length := by
      rw [String.length_toList]
      exact hin.stop_le
    rw [segmentsFrom_cons, List.flatMap_append, List.flatMap_cons, flatMap_gap text hstart,
      flatMap_segmentsFrom hss, Text.toList_slice, ← List.append_assoc,
      Text.sliceChars_append _ hstart (Nat.le_of_lt hin.start_lt), ← Text.sliceChars_length,
      Text.sliceChars_append _ hstop hlen, Text.sliceChars_length]

/-- **The labelled runs are the spans**, each where it stood. -/
theorem spansFrom_segmentsFrom {text : String} : ∀ {ss : List Span} {pos : Nat},
    Span.StandFrom text pos ss → Segment.spansFrom pos (segmentsFrom text pos ss) = ss
  | [], pos, hpos => by
    have hgap : Segment.spansFrom pos (gap text pos text.length ++ []) = [] :=
      spansFrom_gap hpos (Nat.le_refl _) []
    rw [List.append_nil] at hgap
    rw [segmentsFrom_nil, hgap]
  | s :: ss, pos, ⟨hstart, hin, hss⟩ => by
    have hend : s.start + (s.stop - s.start) = s.stop :=
      Nat.add_sub_cancel' (Nat.le_of_lt hin.start_lt)
    rw [segmentsFrom_cons,
      spansFrom_gap hstart (Nat.le_trans (Nat.le_of_lt hin.start_lt) hin.stop_le),
      Segment.spansFrom, length_slice hin.stop_le, hend, spansFrom_segmentsFrom hss, ← hin.text_eq]

end CiteSieve
