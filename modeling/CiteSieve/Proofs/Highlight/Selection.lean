import CiteSieve.Span

/-!
# Spans that do not overlap

Of the spans in order, each one is kept that begins where the last kept one has ended or further
on. So those that are kept stand one after the other, whatever was there.

* `Span.selectFrom_pairwise`, `Span.mem_selectFrom`: what is kept, from a position on.
* `Span.resolveOverlaps_pairwise`, `Span.mem_of_mem_resolveOverlaps`: what is kept of all spans.
-/

namespace CiteSieve.Span

/-- The span comes first, and the other one begins where it ends or further on. -/
def IsBefore (s t : Span) : Prop :=
  s.start < t.start ∧ s.stop ≤ t.start

theorem selectFrom_sublist : ∀ (free : Nat) (ss : List Span), (selectFrom free ss).Sublist ss
  | _, [] => List.Sublist.refl _
  | free, s :: ss => by
    rw [selectFrom]
    split
    · exact (selectFrom_sublist s.stop ss).cons_cons s
    · exact (selectFrom_sublist free ss).cons s

/-- Where the spans are not empty, none that is kept begins before the free position. -/
theorem le_start_of_mem_selectFrom {free : Nat} {ss : List Span}
    (h : ∀ s ∈ ss, s.start < s.stop) : ∀ s ∈ selectFrom free ss, free ≤ s.start := by
  induction ss generalizing free with
  | nil => exact fun s hs => absurd hs List.not_mem_nil
  | cons s ss ih =>
    obtain ⟨hs, hss⟩ := List.forall_mem_cons.mp h
    intro s' hs'
    rw [selectFrom] at hs'
    split at hs'
    · rename_i hfree
      rcases List.mem_cons.mp hs' with rfl | hs'
      · exact hfree
      · have hlater := ih hss s' hs'
        omega
    · exact ih hss s' hs'

theorem selectFrom_pairwise {free : Nat} {ss : List Span} (h : ∀ s ∈ ss, s.start < s.stop) :
    (selectFrom free ss).Pairwise IsBefore := by
  induction ss generalizing free with
  | nil => exact .nil
  | cons s ss ih =>
    obtain ⟨hs, hss⟩ := List.forall_mem_cons.mp h
    rw [selectFrom]
    split
    · refine List.pairwise_cons.mpr ⟨?_, ih hss⟩
      intro s' hs'
      have hlater := le_start_of_mem_selectFrom hss s' hs'
      exact ⟨by omega, hlater⟩
    · exact ih hss

theorem mem_of_mem_resolveOverlaps {ss : List Span} {s : Span} (h : s ∈ resolveOverlaps ss) :
    s ∈ ss :=
  List.mem_mergeSort.mp ((selectFrom_sublist 0 _).subset h)

/-- The first span is kept, whichever it is. -/
theorem resolveOverlaps_ne_nil {ss : List Span} (h : ss ≠ []) : resolveOverlaps ss ≠ [] := by
  obtain ⟨s, hs⟩ := List.exists_mem_of_ne_nil ss h
  have hsorted : ss.mergeSort comesFirst ≠ [] := List.ne_nil_of_mem (List.mem_mergeSort.mpr hs)
  unfold resolveOverlaps
  cases hs : ss.mergeSort comesFirst with
  | nil => exact absurd hs hsorted
  | cons s ss' =>
    rw [selectFrom, if_pos (Nat.zero_le _)]
    exact List.cons_ne_nil _ _

/-- **Spans that are kept stand one after the other.** -/
theorem resolveOverlaps_pairwise {ss : List Span} (h : ∀ s ∈ ss, s.start < s.stop) :
    (resolveOverlaps ss).Pairwise IsBefore :=
  selectFrom_pairwise fun s hs => h s (List.mem_mergeSort.mp hs)

end CiteSieve.Span
