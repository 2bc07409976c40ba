import CiteSieve.Proofs.Highlight.Selection
import Mathlib.Data.List.Pairwise

/-!
# The leftmost and longest spans

Of the spans that begin at one position the longest is looked at first, and the first given one of
those that are equally long. So a span that is kept is the first of the order that begins where it
begins, and a span that is not kept overlaps one that begins no later. This describes what is kept
completely; the order in which spans are given decides only between equal ranges.

* `Span.Resolves`: the description.
* `find?_of_mem_selectFrom`, `exists_mem_selectFrom`: what is kept, and what stands in the way.
* `resolveOverlaps_leftmost_longest`: just one choice of spans fits it, which is made.
-/

namespace CiteSieve.Span

/-! ## The order -/

/-- The positions between which a span stands. -/
def range (s : Span) : Nat × Nat :=
  (s.start, s.stop)

theorem range_eq_iff {s t : Span} : s.range = t.range ↔ s.start = t.start ∧ s.stop = t.stop := by
  rw [range, range, Prod.mk.injEq]

theorem comesFirst_iff {s t : Span} : s.comesFirst t = true ↔
    s.start < t.start ∨ (s.start = t.start ∧ t.stop ≤ s.stop) := by
  have hlength : t.length ≤ s.length ↔ (t.stop : Int) - t.start ≤ (s.stop : Int) - s.start := Iff.rfl
  rw [comesFirst, Bool.or_eq_true, Bool.and_eq_true, decide_eq_true_eq, decide_eq_true_eq,
    beq_iff_eq, hlength]
  omega

theorem comesFirst_trans (s t u : Span) (hst : s.comesFirst t = true)
    (htu : t.comesFirst u = true) : s.comesFirst u = true := by
  rw [comesFirst_iff] at *
  omega

theorem comesFirst_total (s t : Span) : (s.comesFirst t || t.comesFirst s) = true := by
  rw [Bool.or_eq_true, comesFirst_iff, comesFirst_iff]
  omega

theorem pairwise_sorted (ss : List Span) :
    (ss.mergeSort comesFirst).Pairwise fun s t => s.comesFirst t = true :=
  List.pairwise_mergeSort comesFirst_trans comesFirst_total ss

theorem overlaps_self {s : Span} (h : s.start < s.stop) : s.overlaps s = true := by
  simp only [overlaps, h, decide_true, Bool.and_self]

/-- Equal ranges stay in the order in which they were given. -/
theorem filter_sorted (ss : List Span) (r : Nat × Nat) :
    (ss.mergeSort comesFirst).filter (·.range == r) = ss.filter (·.range == r) := by
  have hequal : (ss.filter (·.range == r)).Pairwise fun s t => s.comesFirst t = true := by
    refine List.pairwise_iff_forall_sublist.mpr fun {s t} hst => ?_
    have hs := (List.mem_filter.mp (hst.subset List.mem_cons_self)).2
    have ht := (List.mem_filter.mp (hst.subset (List.mem_cons_of_mem s List.mem_cons_self))).2
    obtain ⟨hstart, hstop⟩ := range_eq_iff.mp ((beq_iff_eq.mp hs).trans (beq_iff_eq.mp ht).symm)
    exact comesFirst_iff.mpr (.inr ⟨hstart, Nat.le_of_eq hstop.symm⟩)
  have hsub := (List.sublist_mergeSort comesFirst_trans comesFirst_total hequal
    List.filter_sublist).filter (·.range == r)
  rw [List.filter_filter] at hsub
  simp only [Bool.and_self] at hsub
  exact (hsub.eq_of_length ((List.mergeSort_perm ss comesFirst).filter _).length_eq.symm).symm

/-! ## What is kept in turn -/

/-- **A span that is kept is the first one with its start**: if an earlier one with this start had
been passed over, this one would be too. -/
theorem find?_of_mem_selectFrom {free : Nat} {ss : List Span} (h : ∀ s ∈ ss, s.start < s.stop)
    {t : Span} (ht : t ∈ selectFrom free ss) : ss.find? (·.start == t.start) = some t := by
  induction ss generalizing free with
  | nil => exact absurd ht List.not_mem_nil
  | cons s ss ih =>
    obtain ⟨hs, hss⟩ := List.forall_mem_cons.mp h
    rw [selectFrom] at ht
    split at ht
    · rcases List.mem_cons.mp ht with rfl | ht
      · exact List.find?_cons_of_pos (beq_self_eq_true t.start)
      · have hlater := le_start_of_mem_selectFrom hss t ht
        rw [List.find?_cons_of_neg (by rw [beq_iff_eq]; omega), ih hss ht]
    · have hlater := le_start_of_mem_selectFrom hss t ht
      rw [List.find?_cons_of_neg (by rw [beq_iff_eq]; omega), ih hss ht]

/-- **What stands in the way:** each of the spans in order overlaps one that is kept and begins no
later, except for those that begin before the free position. -/
theorem exists_mem_selectFrom {free : Nat} {ss : List Span} (h : ∀ s ∈ ss, s.start < s.stop)
    (hsorted : ss.Pairwise fun s t => s.comesFirst t = true) {s : Span} (hs : s ∈ ss)
    (hfree : free ≤ s.start) :
    ∃ t ∈ selectFrom free ss, t.start ≤ s.start ∧ s.overlaps t = true := by
  induction ss generalizing free with
  | nil => exact absurd hs List.not_mem_nil
  | cons s' ss ih =>
    obtain ⟨hs', hss⟩ := List.forall_mem_cons.mp h
    obtain ⟨hfirst, hrest⟩ := List.pairwise_cons.mp hsorted
    rw [selectFrom]
    rcases List.mem_cons.mp hs with rfl | hs
    · rw [if_pos hfree]
      exact ⟨s, List.mem_cons_self, Nat.le_refl _, overlaps_self hs'⟩
    · split
      · -- The first span is kept; what begins before its end overlaps it.
        by_cases hstop : s'.stop ≤ s.start
        · obtain ⟨t, ht, hover⟩ := ih hss hrest hs hstop
          exact ⟨t, List.mem_cons_of_mem s' ht, hover⟩
        · have hstart := comesFirst_iff.mp (hfirst s hs)
          have hne := hss s hs
          refine ⟨s', List.mem_cons_self, by omega, ?_⟩
          simp only [overlaps, Bool.and_eq_true, decide_eq_true_eq]
          omega
      · exact ih hss hrest hs hfree

/-- Which ranges are kept depends on the ranges alone. -/
theorem map_range_selectFrom : ∀ {ss ss' : List Span} (free : Nat),
    ss.map range = ss'.map range → (selectFrom free ss).map range = (selectFrom free ss').map range
  | [], [], _, _ => rfl
  | s :: ss, s' :: ss', free, h => by
    obtain ⟨hhead, htail⟩ := List.cons.inj h
    obtain ⟨hstart, hstop⟩ := range_eq_iff.mp hhead
    rw [selectFrom, selectFrom, hstart]
    split
    · rw [List.map_cons, List.map_cons, hhead, hstop, map_range_selectFrom _ htail]
    · exact map_range_selectFrom _ htail

/-! ## What is kept of all spans -/

/-- The spans are those of `ss` that are leftmost and longest. -/
structure Resolves (ss chosen : List Span) : Prop where
  subset : ∀ t ∈ chosen, t ∈ ss
  /-- They are in order and share no position. -/
  disjoint : chosen.Pairwise fun s t => s.start < t.start ∧ s.overlaps t = false
  /-- Every span overlaps one of them that begins no later. -/
  maximal : ∀ s ∈ ss, ∃ t ∈ chosen, t.start ≤ s.start ∧ s.overlaps t = true
  longest : ∀ t ∈ chosen, ∀ s ∈ ss, s.start = t.start → s.length ≤ t.length
  /-- Of equal ranges it is the first one. -/
  first : ∀ t ∈ chosen, ss.find? (·.range == t.range) = some t

theorem resolves_resolveOverlaps {ss : List Span} (h : ∀ s ∈ ss, s.start < s.stop) :
    Resolves ss (resolveOverlaps ss) := by
  have hsorted : ∀ s ∈ ss.mergeSort comesFirst, s.start < s.stop :=
    fun s hs => h s (List.mem_mergeSort.mp hs)
  refine ⟨fun t => mem_of_mem_resolveOverlaps, ?_, fun s hs => ?_, fun t ht s hs hstart => ?_,
    fun t ht => ?_⟩
  · refine (resolveOverlaps_pairwise h).imp fun {s t} hst => ⟨hst.1, ?_⟩
    simp only [overlaps, Bool.and_eq_false_iff, decide_eq_false_iff_not, Nat.not_lt]
    exact .inr hst.2
  · exact exists_mem_selectFrom hsorted (pairwise_sorted ss) (List.mem_mergeSort.mpr hs)
      (Nat.zero_le _)
  · -- The span is the first of the order with its start, so no longer one follows it.
    obtain ⟨-, before, after, hsplit, hbefore⟩ :=
      List.find?_eq_some_iff_append.mp (find?_of_mem_selectFrom hsorted ht)
    have hs' : s ∈ before ++ t :: after := hsplit ▸ List.mem_mergeSort.mpr hs
    rcases List.mem_append.mp hs' with hs' | hs'
    · exact absurd (hbefore s hs') (by simp [hstart])
    · rcases List.mem_cons.mp hs' with rfl | hs'
      · exact Int.le_refl _
      · have hpair := hsplit ▸ pairwise_sorted ss
        have hfirst := (List.pairwise_cons.mp (List.pairwise_append.mp hpair).2.1).1 s hs'
        rw [comesFirst_iff] at hfirst
        unfold length
        omega
  · obtain ⟨-, before, after, hsplit, hbefore⟩ :=
      List.find?_eq_some_iff_append.mp (find?_of_mem_selectFrom hsorted ht)
    have hfind : (ss.mergeSort comesFirst).find? (·.range == t.range) = some t := by
      refine List.find?_eq_some_iff_append.mpr ⟨beq_self_eq_true _, before, after, hsplit, ?_⟩
      intro s hs
      have hne := hbefore s hs
      simp only [Bool.not_eq_true', beq_eq_false_iff_ne, ne_eq, range_eq_iff] at hne ⊢
      exact fun hrange => hne hrange.1
    rw [← List.head?_filter, ← filter_sorted, List.head?_filter, hfind]

/-- Two spans of a choice share no position. -/
theorem Resolves.overlaps_eq_false {ss chosen : List Span} (h : Resolves ss chosen) {s t : Span}
    (hs : s ∈ chosen) (ht : t ∈ chosen) (hne : s ≠ t) : s.overlaps t = false := by
  have : Std.Symm fun s t : Span => s.overlaps t = false :=
    ⟨fun s t hst => (Bool.and_comm _ _).trans hst⟩
  exact (h.disjoint.imp And.right).forall hs ht hne

/-- A span of one choice is in every other: what it overlaps there begins where it does and is
equal to it, or begins before it and would be in the first choice as well. -/
theorem Resolves.mem_of_resolves {ss : List Span} : ∀ {chosen chosen' : List Span} {t : Span},
    Resolves ss chosen → Resolves ss chosen' → t ∈ chosen → t ∈ chosen' := by
  intro chosen chosen' t
  induction hn : t.start using Nat.strongRecOn generalizing t chosen chosen' with
  | ind n ih =>
    intro h h' ht
    obtain ⟨u, hu, hle, hover⟩ := h'.maximal t (h.subset t ht)
    rcases Nat.lt_or_eq_of_le hle with hlt | heq
    · have hu' : u ∈ chosen := ih u.start (hn ▸ hlt) rfl h' h hu
      rw [h.overlaps_eq_false ht hu' fun he => Nat.ne_of_gt hlt (congrArg start he)] at hover
      exact absurd hover Bool.false_ne_true
    · have hlong := h.longest t ht u (h'.subset u hu) heq
      have hlong' := h'.longest u hu t (h.subset t ht) heq.symm
      have hrange : t.range = u.range := by
        unfold length at hlong hlong'
        exact range_eq_iff.mpr (by omega)
      have hfirst := h.first t ht
      rw [hrange, h'.first u hu] at hfirst
      exact Option.some.inj hfirst ▸ hu

/-- **There is one choice.** -/
theorem Resolves.unique {ss chosen chosen' : List Span} (h : Resolves ss chosen)
    (h' : Resolves ss chosen') : chosen = chosen' := by
  have hnodup : ∀ {chosen}, Resolves ss chosen → chosen.Nodup := fun h =>
    h.disjoint.imp fun {s t} hst (heq : s = t) => Nat.ne_of_lt hst.1 (congrArg start heq)
  have hperm : chosen.Perm chosen' := (List.perm_ext_iff_of_nodup (hnodup h) (hnodup h')).mpr
    fun t => ⟨h.mem_of_resolves h', h'.mem_of_resolves h⟩
  exact hperm.eq_of_pairwise (fun s t _ _ hst hts => absurd hst.1 (Nat.lt_asymm hts.1)) h.disjoint
    h'.disjoint

/-- What has been chosen is chosen again. -/
theorem Resolves.resolves_self {ss chosen : List Span} (h : Resolves ss chosen)
    (hne : ∀ s ∈ ss, s.start < s.stop) : Resolves chosen chosen where
  subset _ := id
  disjoint := h.disjoint
  maximal s hs := ⟨s, hs, Nat.le_refl _, overlaps_self (hne s (h.subset s hs))⟩
  longest t ht s hs := h.longest t ht s (h.subset s hs)
  first t ht := by
    obtain ⟨before, after, rfl⟩ := List.append_of_mem ht
    refine List.find?_eq_some_iff_append.mpr ⟨beq_self_eq_true _, before, after, rfl, ?_⟩
    intro s hs
    have hlt := (List.pairwise_append.mp h.disjoint).2.2 s hs t List.mem_cons_self
    rw [Bool.not_eq_true', beq_eq_false_iff_ne, ne_eq, range_eq_iff]
    exact fun hrange => Nat.ne_of_lt hlt.1 hrange.1

/-- The ranges that are chosen do not depend on the order of the spans: their own order leaves
open only which of equal ranges comes first. -/
theorem map_range_resolveOverlaps {ss ss' : List Span} (h : ss.Perm ss') :
    (resolveOverlaps ss).map range = (resolveOverlaps ss').map range := by
  have hsorted : ∀ ss : List Span, ((ss.mergeSort comesFirst).map range).Pairwise
      fun r r' => r.1 < r'.1 ∨ (r.1 = r'.1 ∧ r'.2 ≤ r.2) := fun ss =>
    List.pairwise_map.mpr ((pairwise_sorted ss).imp comesFirst_iff.mp)
  have hperm : (ss.mergeSort comesFirst).Perm (ss'.mergeSort comesFirst) :=
    (List.mergeSort_perm ss _).trans (h.trans (List.mergeSort_perm ss' _).symm)
  refine map_range_selectFrom 0 ((hperm.map range).eq_of_pairwise ?_ (hsorted ss) (hsorted ss'))
  intro r r' _ _ hr hr'
  exact Prod.ext (by omega) (by omega)

/-- **Overlaps are resolved leftmost and longest.** Of spans that are not empty one choice is made
that fits the description, and no other fits it. Its ranges do not depend on the order of the
spans, and choosing from it again changes nothing. -/
theorem resolveOverlaps_leftmost_longest {ss : List Span} (h : ∀ s ∈ ss, s.start < s.stop) :
    Resolves ss (resolveOverlaps ss) ∧
      (∀ chosen, Resolves ss chosen → chosen = resolveOverlaps ss) ∧
      (∀ ss', ss'.Perm ss → (resolveOverlaps ss').map range = (resolveOverlaps ss).map range) ∧
      resolveOverlaps (resolveOverlaps ss) = resolveOverlaps ss := by
  have hself := resolves_resolveOverlaps h
  have hagain : ∀ s ∈ resolveOverlaps ss, s.start < s.stop :=
    fun s hs => h s (mem_of_mem_resolveOverlaps hs)
  exact ⟨hself, fun chosen hchosen => hchosen.unique hself,
    fun ss' hperm => map_range_resolveOverlaps hperm,
    (resolves_resolveOverlaps hagain).unique (hself.resolves_self h)⟩

/-- Nested spans, a chain in which every span overlaps the next one, and a range that two blocks
share. -/
def tangledSpans : List Span :=
  [⟨6, 9, "C", "ghi"⟩, ⟨2, 5, "B", "cde"⟩, ⟨0, 3, "B", "abc"⟩, ⟨4, 7, "A", "efg"⟩,
    ⟨0, 3, "A", "abc"⟩, ⟨0, 1, "C", "a"⟩]

theorem tangledSpans_leftmost_longest :
    (∀ s ∈ tangledSpans, s.start < s.stop) ∧
      resolveOverlaps tangledSpans = [⟨0, 3, "B", "abc"⟩, ⟨4, 7, "A", "efg"⟩] ∧
      (resolveOverlaps tangledSpans.reverse).map range = [(0, 3), (4, 7)] := by
  have h : ∀ s ∈ tangledSpans, s.start < s.stop := by decide
  have hfits : Resolves tangledSpans [⟨0, 3, "B", "abc"⟩, ⟨4, 7, "A", "efg"⟩] :=
    ⟨by decide, by decide, by decide, by decide, by decide⟩
  obtain ⟨-, hunique, hperm, -⟩ := resolveOverlaps_leftmost_longest h
  have hchosen := hunique _ hfits
  refine ⟨h, hchosen.symm, ?_⟩
  rw [hperm _ (List.reverse_perm _), ← hchosen]
  rfl

end CiteSieve.Span
