import Mathlib.Algebra.BigOperators.Group.Multiset.Basic
import CiteSieve.Proofs.Stats.Listed

/-!
# Statistics are tallies

Every number of the statistics says how many hit maps, or how many hits in them, are of some kind;
so the numbers of one kind bound and add up to those of another, and the order of the hit maps does
not matter. What is listed is what the query lists, and behind it what hits besides.

* `FieldHits.has`, `HitMap.has`, `HitMap.of`: what a block or a record hit.
* `TermStats.Tallies`: what each number counts, and what is listed.
* `TermStats.SameCounts`: statistics that count the same.
* `TermStats.aggregate_tallies`: the statistics of hit maps count them, in whatever order.
-/

namespace CiteSieve

/-! ## Sums over lists -/

section Sums

variable {α β : Type}

theorem countP_eq_sum_map (p : α → Bool) : ∀ as : List α,
    as.countP p = (as.map fun a => if p a then 1 else 0).sum
  | [] => rfl
  | a :: as => by
    rw [List.countP_cons, List.map_cons, List.sum_cons, countP_eq_sum_map p as, Nat.add_comm]

/-- The order of two summations does not matter. -/
theorem sum_map_comm (g : α → β → Nat) (as : List α) (bs : List β) :
    (as.map fun a => (bs.map (g a)).sum).sum = (bs.map fun b => (as.map (g · b)).sum).sum := by
  simpa only [Multiset.map_coe, Multiset.sum_coe] using
    Multiset.sum_map_sum_map (as : Multiset α) (bs : Multiset β) (f := g)

/-- A number that one member of a list stands for. -/
theorem sum_map_ite_of_nodup [DecidableEq α] (a : α) (n : Nat) : ∀ {as : List α}, as.Nodup →
    (as.map fun a' => if a' = a then n else 0).sum = if a ∈ as then n else 0
  | [], _ => rfl
  | a' :: as, h => by
    obtain ⟨ha, has⟩ := List.nodup_cons.mp h
    rw [List.map_cons, List.sum_cons, sum_map_ite_of_nodup a n has]
    by_cases hsame : a' = a
    · rw [if_pos hsame, if_neg (hsame ▸ ha), if_pos (hsame ▸ List.mem_cons_self), Nat.add_zero]
    · simp only [List.mem_cons, Ne.symm hsame, hsame, if_false, false_or, Nat.zero_add]

/-- What is one of several kinds is counted with some kind at least. -/
theorem countP_le_sum_countP {p : α → Bool} {kind : β → α → Bool} {ks : List β} :
    ∀ {as : List α}, (∀ a ∈ as, p a = true → ∃ k ∈ ks, kind k a = true) →
      as.countP p ≤ (ks.map fun k => as.countP (kind k)).sum
  | [], _ => Nat.zero_le _
  | a :: as, h => by
    obtain ⟨ha, has⟩ := List.forall_mem_cons.mp h
    have ih := countP_le_sum_countP has
    simp only [List.countP_cons, List.sum_map_add]
    refine Nat.add_le_add ih ?_
    split
    · rename_i hp
      obtain ⟨k, hk, hkind⟩ := ha hp
      rw [← countP_eq_sum_map]
      exact List.countP_pos_iff.mpr ⟨k, hk, hkind⟩
    · exact Nat.zero_le _

end Sums

/-! ## What was hit -/

/-- The term hit some field. -/
def FieldHits.has (h : FieldHits) (t : String) : Bool :=
  Field.all.any fun f => (h.get f).contains t

theorem FieldHits.has_iff {h : FieldHits} {t : String} : h.has t = true ↔ ∃ f, t ∈ h.get f := by
  unfold FieldHits.has
  simp [Field.mem_all]

namespace HitMap

/-- The term hit some field in some block. -/
def has (m : HitMap) (t : String) : Bool :=
  m.any fun e => e.2.has t

/-- What the block of the name hit, which is nothing if there is none. -/
def of (m : HitMap) (block : String) : FieldHits :=
  (m.lookup block).getD {}

variable {m : HitMap} {block t : String}

/-- What a block hit, an entry of its name did. -/
theorem mem_of_has_of (h : (m.of block).has t = true) :
    ∃ fh, (block, fh) ∈ m ∧ fh.has t = true := by
  unfold of at h
  cases hm : m.lookup block with
  | none =>
    rw [hm] at h
    exact absurd h (by simp [FieldHits.has, FieldHits.get, Field.all])
  | some fh =>
    rw [hm] at h
    exact ⟨fh, Assoc.mem_of_lookup hm, h⟩

theorem has_of_has_of (h : (m.of block).has t = true) : m.has t = true := by
  obtain ⟨fh, hmem, hfh⟩ := mem_of_has_of h
  exact List.any_eq_true.mpr ⟨_, hmem, hfh⟩

theorem of_of_mem (hm : m.keys.Nodup) {e : String × FieldHits} (he : e ∈ m) : m.of e.1 = e.2 := by
  rw [of, Assoc.lookup_of_mem hm he, Option.getD_some]

/-- A number that is read off the entries of the name is read off what the block hit. -/
theorem sum_map_of (g : FieldHits → Nat) (hg : g {} = 0) : ∀ {m : HitMap}, m.keys.Nodup →
    (m.map fun e => if block = e.1 then g e.2 else 0).sum = g (m.of block)
  | [], _ => hg.symm
  | (k, h) :: m, hnodup => by
    obtain ⟨hk, hm⟩ := List.nodup_cons.mp hnodup
    rw [List.map_cons, List.sum_cons, sum_map_of g hg hm]
    unfold of
    rw [Assoc.lookup_cons]
    by_cases hsame : block = k
    · have hnone : m.lookup block = none := by
        rw [← Option.not_isSome_iff_eq_none, Assoc.isSome_lookup_iff, hsame]
        exact hk
      rw [if_pos hsame, if_pos hsame, hnone, Option.getD_none, hg, Nat.add_zero, Option.getD_some]
    · rw [if_neg hsame, if_neg hsame, Nat.zero_add]

end HitMap

theorem TermCount.ext_of_get {c c' : TermCount} (hdocuments : c.documents = c'.documents)
    (hget : ∀ f, c.get f = c'.get f) : c = c' := by
  cases c
  cases c'
  exact (TermCount.mk.injEq ..).mpr ⟨hdocuments, hget .title, hget .abstract, hget .keywords⟩

namespace TermStats

/-! ## What is counted -/

/-- The statistics of a query and of hit maps: what each number counts, and what is listed. -/
structure Tallies (s : TermStats) (q : Option Query) (hs : List HitMap) : Prop where
  documents : s.documents = hs.length
  /-- The documents of a term of a block are the hit maps in which the block has the term, -/
  termDocuments : ∀ b t, (termCount s.byBlock b t).documents = hs.countP fun m => (m.of b).has t
  /-- and the hits in a field are those in its lists for the field. -/
  termFields : ∀ b t f,
    (termCount s.byBlock b t).get f = (hs.map fun m => ((m.of b).get f).count t).sum
  /-- The hits of a field are those of all blocks, -/
  fields : ∀ f t, countOf (s.fieldCounts f) t =
    (s.byBlock.keys.map fun b => (termCount s.byBlock b t).get f).sum
  /-- but a hit map counts once, in however many blocks it has the term. -/
  overall : ∀ t, countOf s.overall t = hs.countP fun m => m.has t
  termDocuments_le : ∀ b t, (termCount s.byBlock b t).documents ≤ countOf s.overall t
  overall_le_sum : ∀ t, countOf s.overall t ≤
    (s.byBlock.keys.map fun b => (termCount s.byBlock b t).documents).sum
  overall_le : ∀ t, countOf s.overall t ≤ s.documents
  /-- A term is listed if the query lists it or it hits, nothing twice, and what the query lists in
  front. -/
  isTable : IsTable s.byBlock
  terms : ∀ b t, t ∈ (s.block b).keys ↔ (b, t) ∈ listing q ∨ ∃ m ∈ hs, (m.of b).has t = true
  terms_order : ∀ b, (listedTerms q b).eraseDups <+: (s.block b).keys
  blocks : ∀ b, b ∈ s.byBlock.keys ↔ ∃ t, t ∈ (s.block b).keys
  blocks_order : (listedBlocks q).eraseDups <+: s.byBlock.keys
  allTerms : ∀ t, t ∈ s.overall.keys ↔ ∃ b, t ∈ (s.block b).keys

/-- The statistics list the same and count the same. -/
structure SameCounts (s s' : TermStats) : Prop where
  documents : s.documents = s'.documents
  overall : ∀ t, countOf s.overall t = countOf s'.overall t
  fields : ∀ f t, countOf (s.fieldCounts f) t = countOf (s'.fieldCounts f) t
  terms : ∀ b t, termCount s.byBlock b t = termCount s'.byBlock b t
  listed : ∀ b t, t ∈ (s.block b).keys ↔ t ∈ (s'.block b).keys

theorem has_iff_mem_hitTerms {h : FieldHits} {t : String} : h.has t = true ↔ t ∈ hitTerms h := by
  rw [FieldHits.has_iff, mem_hitTerms]

theorem has_eq_mem_recordTerms (m : HitMap) (t : String) :
    decide (t ∈ recordTerms m) = m.has t := by
  rw [Bool.eq_iff_iff, decide_eq_true_eq, mem_recordTerms, HitMap.has, List.any_eq_true]
  simp only [has_iff_mem_hitTerms]

section Aggregate

variable (q : Option Query) {hs : List HitMap} (hmaps : ∀ m ∈ hs, m.keys.Nodup)

include hmaps

/-- The documents of a term of a block are hit maps, as no block is in a hit map twice. -/
theorem documents_eq_countP (b t : String) :
    (termCount (aggregate q hs).byBlock b t).documents = hs.countP fun m => (m.of b).has t := by
  rw [documents_termCount_aggregate, countP_eq_sum_map]
  refine congrArg List.sum (List.map_congr_left fun m hm => ?_)
  rw [← HitMap.sum_map_of (fun h => if h.has t then 1 else 0) rfl (hmaps m hm),
    countP_eq_sum_map]
  refine congrArg List.sum (List.map_congr_left fun e _ => ?_)
  by_cases hb : b = e.1
  · simp only [hb, true_and, if_true, decide_eq_true_eq, has_iff_mem_hitTerms]
  · simp [hb]

theorem get_eq_sum_count (b t : String) (f : Field) :
    (termCount (aggregate q hs).byBlock b t).get f =
      (hs.map fun m => ((m.of b).get f).count t).sum := by
  rw [get_termCount_aggregate]
  refine congrArg List.sum (List.map_congr_left fun m hm => ?_)
  exact HitMap.sum_map_of (fun h => (h.get f).count t) (by cases f <;> rfl) (hmaps m hm)

theorem isListed_iff (b t : String) :
    IsListed q hs b t ↔ (b, t) ∈ listing q ∨ ∃ m ∈ hs, (m.of b).has t = true := by
  unfold IsListed
  rw [mem_listing]
  refine or_congr_right (exists_congr fun m => and_congr_right fun hm => ?_)
  constructor
  · rintro ⟨e, he, rfl, ht⟩
    rw [HitMap.of_of_mem (hmaps m hm) he]
    exact has_iff_mem_hitTerms.mpr ht
  · intro ht
    obtain ⟨fh, hmem, hfh⟩ := HitMap.mem_of_has_of ht
    exact ⟨(b, fh), hmem, rfl, has_iff_mem_hitTerms.mp hfh⟩

omit hmaps

theorem overall_eq_countP (t : String) :
    countOf (aggregate q hs).overall t = hs.countP fun m => m.has t := by
  simp only [countOf_overall_aggregate, has_eq_mem_recordTerms]

/-- **The hits of a field** are those of the blocks that are listed: every block that hits is. -/
theorem fieldCounts_eq_sum (f : Field) (t : String) :
    countOf ((aggregate q hs).fieldCounts f) t =
      ((aggregate q hs).byBlock.keys.map fun b =>
        (termCount (aggregate q hs).byBlock b t).get f).sum := by
  simp only [get_termCount_aggregate, countOf_fieldCounts_aggregate]
  rw [sum_map_comm]
  refine congrArg List.sum (List.map_congr_left fun m hm => ?_)
  rw [sum_map_comm]
  refine congrArg List.sum (List.map_congr_left fun e he => ?_)
  rw [sum_map_ite_of_nodup e.1 _ (isTable_aggregate q hs).blocks]
  split
  · rfl
  · rename_i hunlisted
    refine List.count_eq_zero.mpr fun ht => hunlisted ?_
    exact (mem_keys_byBlock_aggregate q hs e.1).mpr
      ⟨t, .inr ⟨m, hm, e, he, rfl, mem_hitTerms.mpr ⟨f, ht⟩⟩⟩

/-- Statistics count the same of the same hit maps in another order. -/
theorem aggregate_perm {hs' : List HitMap} (h : hs.Perm hs') :
    (aggregate q hs).SameCounts (aggregate q hs') where
  documents := by
    rw [documents_aggregate, documents_aggregate, h.length_eq]
  overall := by
    intro t
    rw [countOf_overall_aggregate, countOf_overall_aggregate, h.countP_eq]
  fields := by
    intro f t
    rw [countOf_fieldCounts_aggregate, countOf_fieldCounts_aggregate, (h.map _).sum_eq]
  terms := by
    intro b t
    refine TermCount.ext_of_get ?_ fun f => ?_
    · rw [documents_termCount_aggregate, documents_termCount_aggregate, (h.map _).sum_eq]
    · rw [get_termCount_aggregate, get_termCount_aggregate, (h.map _).sum_eq]
  listed := by
    intro b t
    rw [mem_terms_aggregate, mem_terms_aggregate]
    unfold IsListed
    simp only [h.mem_iff]

/-- **Statistics count hit maps.** No block is in a hit map twice; terms may be in a list of hits
more than once, and each time counts for the field. The order of the hit maps has no say. -/
theorem aggregate_tallies {hs : List HitMap} (hmaps : ∀ m ∈ hs, m.keys.Nodup) :
    (aggregate q hs).Tallies q hs ∧
      ∀ hs', hs.Perm hs' → (aggregate q hs).SameCounts (aggregate q hs') := by
  refine ⟨?_, fun hs' h => aggregate_perm q h⟩
  have hdocuments := documents_eq_countP q hmaps
  have hoverall : ∀ t, countOf (aggregate q hs).overall t = hs.countP fun m => m.has t :=
    overall_eq_countP q
  constructor
  case documents => exact documents_aggregate q hs
  case termDocuments => exact hdocuments
  case termFields => exact get_eq_sum_count q hmaps
  case fields => exact fieldCounts_eq_sum q
  case overall => exact hoverall
  case termDocuments_le =>
    intro b t
    rw [hdocuments, hoverall]
    exact List.countP_mono_left fun m _ => HitMap.has_of_has_of
  case overall_le_sum =>
    intro t
    simp only [hdocuments, hoverall]
    refine countP_le_sum_countP fun m hm ht => ?_
    obtain ⟨e, he, het⟩ := List.any_eq_true.mp ht
    refine ⟨e.1, (mem_keys_byBlock_aggregate q hs e.1).mpr ⟨t, .inr ⟨m, hm, e, he, rfl, ?_⟩⟩, ?_⟩
    · exact has_iff_mem_hitTerms.mp het
    · rwa [HitMap.of_of_mem (hmaps m hm) he]
  case overall_le =>
    intro t
    rw [hoverall, documents_aggregate]
    exact List.countP_le_length
  case isTable => exact isTable_aggregate q hs
  case terms => exact fun b t => (mem_terms_aggregate q hs b t).trans (isListed_iff q hmaps b t)
  case terms_order =>
    intro b
    rw [← keys_block_start]
    exact (extends_aggregate q hs).terms b
  case blocks =>
    intro b
    simp only [mem_keys_byBlock_aggregate, mem_terms_aggregate]
  case blocks_order =>
    rw [← keys_byBlock_start]
    exact (extends_aggregate q hs).blocks
  case allTerms =>
    intro t
    simp only [mem_keys_overall_aggregate, mem_terms_aggregate]

end Aggregate

/-- A query whose first two blocks share a term, with an excluded block between them. -/
def sharing : Query where
  blocks := [⟨"B", ["vr", "xr", "vr"], false, false, newBlockId⟩,
    ⟨"N", ["survey"], false, true, newBlockId⟩, ⟨"A", ["xr", " "], false, false, newBlockId⟩]
  operators := [.and, .and]

/-- A record with a term in two blocks and twice in a field, one that only a block outside the query
hit, and one without hits. -/
def sharedHits : List HitMap :=
  [[("B", ⟨["vr", "vr"], ["xr"], []⟩), ("A", ⟨["xr"], ["xr"], []⟩)], [("Z", ⟨[], [], ["ar"]⟩)], []]

theorem aggregate_tallies_sharedHits :
    (∀ m ∈ sharedHits, m.keys.Nodup) ∧
      (aggregate (some sharing) sharedHits).Tallies (some sharing) sharedHits ∧
      (aggregate (some sharing) sharedHits).SameCounts
        (aggregate (some sharing) sharedHits.reverse) ∧
      (aggregate (some sharing) sharedHits).byBlock.map (fun e => (e.1, e.2.keys)) =
        [("B", ["vr", "xr"]), ("A", ["xr"]), ("Z", ["ar"])] ∧
      termCount (aggregate (some sharing) sharedHits).byBlock "B" "vr" = ⟨1, 2, 0, 0⟩ ∧
      countOf (aggregate (some sharing) sharedHits).abstract "xr" = 2 ∧
      countOf (aggregate (some sharing) sharedHits).overall "xr" = 1 := by
  have hmaps : ∀ m ∈ sharedHits, m.keys.Nodup := by decide
  obtain ⟨htallies, hperm⟩ := aggregate_tallies (some sharing) hmaps
  exact ⟨hmaps, htallies, hperm _ sharedHits.reverse_perm.symm, by decide, by decide, by decide,
    by decide⟩

end TermStats

end CiteSieve
