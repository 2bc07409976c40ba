import Mathlib.Algebra.Ring.Nat
import Mathlib.Data.List.Count
import CiteSieve.Proofs.Results
import CiteSieve.Stats

/-!
# What statistics count

The statistics of a list of hit maps, read off one by one: how many records a term of a block hit,
how often it hit each field, how many records it hit in whatever block, and which blocks and terms
are listed. Every step of the aggregation adds what its hits are, whatever was counted before; so
the aggregation adds up what the hit maps are, and nothing else.

* `TermStats.termCount`, `TermStats.countOf`: what is read, where what is not listed counts 0.
* `TermStats.documents_termCount_aggregate`, `get_termCount_aggregate`, `countOf_overall_aggregate`
  and `countOf_fieldCounts_aggregate`: the counts as sums over the hit maps.
* `TermStats.IsListed`: the terms of a block that have a place in the statistics.
* `TermStats.mem_keys_byBlock_aggregate`, `mem_terms_aggregate`, `mem_keys_overall_aggregate`: what
  is listed.
-/

namespace CiteSieve

/-! ## Sums of steps -/

section Folds

variable {σ α : Type} {step : σ → α → σ}

/-- What no step changes is left as it was. -/
theorem foldl_unchanged {β : Type} (read : σ → β) (h : ∀ s a, read (step s a) = read s) :
    ∀ (as : List α) (s : σ), read (as.foldl step s) = read s
  | [], _ => rfl
  | a :: as, s => by rw [List.foldl_cons, foldl_unchanged read h as, h]

/-- Where a step adds an amount of its own, all steps add the sum. -/
theorem foldl_add_sum (read : σ → Nat) {amount : α → Nat}
    (h : ∀ s a, read (step s a) = read s + amount a) :
    ∀ (as : List α) (s : σ), read (as.foldl step s) = read s + (as.map amount).sum
  | [], _ => rfl
  | a :: as, s => by
    rw [List.foldl_cons, foldl_add_sum read h as, h, List.map_cons, List.sum_cons, Nat.add_assoc]

/-- Where a step adds one or nothing, all steps add the number of those that add one. -/
theorem foldl_add_countP (read : σ → Nat) {p : α → Bool}
    (h : ∀ s a, read (step s a) = read s + if p a then 1 else 0) :
    ∀ (as : List α) (s : σ), read (as.foldl step s) = read s + as.countP p
  | [], _ => rfl
  | a :: as, s => by
    rw [List.foldl_cons, foldl_add_countP read h as, h, List.countP_cons]
    omega

/-- Where a step brings something about or not, it is there after all steps if one brings it. -/
theorem foldl_or_exists (has : σ → Prop) {brings : α → Prop}
    (h : ∀ s a, has (step s a) ↔ has s ∨ brings a) :
    ∀ (as : List α) (s : σ), has (as.foldl step s) ↔ has s ∨ ∃ a ∈ as, brings a
  | [], _ => by simp
  | a :: as, s => by
    rw [List.foldl_cons, foldl_or_exists has h as, h, or_assoc]
    simp only [List.mem_cons, exists_eq_or_imp]

/-- What every step does, all steps do. -/
theorem foldl_rel {R : σ → σ → Prop} (hrefl : ∀ s, R s s)
    (htrans : ∀ {s s' s''}, R s s' → R s' s'' → R s s'') (h : ∀ s a, R s (step s a)) :
    ∀ (as : List α) (s : σ), R s (as.foldl step s)
  | [], s => hrefl s
  | a :: as, s => htrans (h s a) (foldl_rel hrefl htrans h as (step s a))

end Folds

namespace TermCount

theorem get_addField (c : TermCount) (f g : Field) :
    (c.addField g).get f = c.get f + if f = g then 1 else 0 := by
  cases f <;> cases g <;> rfl

theorem documents_addField (c : TermCount) (g : Field) :
    (c.addField g).documents = c.documents := by
  cases g <;> rfl

theorem get_addDocument (c : TermCount) (f : Field) : c.addDocument.get f = c.get f := by
  cases f <;> rfl

theorem documents_addDocument (c : TermCount) : c.addDocument.documents = c.documents + 1 := rfl

end TermCount

namespace TermStats

/-! ## One count -/

/-- What is counted under a key. -/
def countOf (m : Assoc String Nat) (k : String) : Nat :=
  (m.lookup k).getD 0

/-- What is counted of a term in a block. -/
def termCount (m : Assoc String BlockStats) (block term : String) : TermCount :=
  (((m.lookup block).getD []).lookup term).getD {}

theorem countOf_countUp (m : Assoc String Nat) (k k' : String) :
    countOf (countUp m k) k' = countOf m k' + if k' = k then 1 else 0 := by
  unfold countOf countUp
  rw [Assoc.lookup_alter]
  by_cases h : k' = k
  · rw [if_pos h, if_pos h, h, Option.getD_some]
  · rw [if_neg h, if_neg h, Nat.add_zero]

theorem countOf_putIfNew (m : Assoc String Nat) (k k' : String) :
    countOf (m.putIfNew k 0) k' = countOf m k' := by
  unfold countOf Assoc.putIfNew
  rw [Assoc.lookup_alter]
  by_cases h : k' = k
  · rw [if_pos h, h, Option.getD_some]
  · rw [if_neg h]

theorem termCount_alterTerm (m : Assoc String BlockStats) (block term : String)
    (f : TermCount → TermCount) (block' term' : String) :
    termCount (alterTerm m block term f) block' term' =
      if block' = block ∧ term' = term then f (termCount m block term)
      else termCount m block' term' := by
  unfold termCount alterTerm
  rw [Assoc.lookup_alter]
  by_cases hb : block' = block
  · subst hb
    rw [if_pos rfl, Option.getD_some, Assoc.lookup_alter]
    by_cases ht : term' = term
    · rw [if_pos ht, if_pos ⟨rfl, ht⟩, Option.getD_some]
    · rw [if_neg ht, if_neg fun h => ht h.2]
  · rw [if_neg hb, if_neg fun h => hb h.1]

/-- A change that adds an amount to what is read adds it at its block and term alone. -/
theorem read_alterTerm (read : TermCount → Nat) {f : TermCount → TermCount} {n : Nat}
    (h : ∀ c, read (f c) = read c + n) (m : Assoc String BlockStats)
    (block term block' term' : String) :
    read (termCount (alterTerm m block term f) block' term') =
      read (termCount m block' term') + if block' = block ∧ term' = term then n else 0 := by
  rw [termCount_alterTerm]
  split
  · rename_i heq
    rw [h, heq.1, heq.2]
  · rfl

/-! ## Hits of a block -/

theorem mem_occurrences {h : FieldHits} {f : Field} {t : String} :
    (f, t) ∈ occurrences h ↔ t ∈ h.get f := by
  unfold occurrences
  simp [Field.mem_all]

theorem mem_hitTerms {h : FieldHits} {t : String} : t ∈ hitTerms h ↔ ∃ f, t ∈ h.get f := by
  unfold hitTerms
  simp [List.mem_eraseDups, mem_occurrences]

/-- A term hits a field as often as it is listed for it. -/
theorem count_occurrences (h : FieldHits) (f : Field) (t : String) :
    (occurrences h).count (f, t) = (h.get f).count t := by
  have hcount : ∀ g : Field, ((h.get g).map fun u => (g, u)).count (f, t) =
      if g = f then (h.get f).count t else 0 := by
    intro g
    split
    · rename_i hg
      subst hg
      exact List.count_map_of_injective _ _ (fun _ _ hu => (Prod.mk.inj hu).2) t
    · rename_i hg
      refine List.count_eq_zero.mpr fun hmem => ?_
      obtain ⟨u, -, hu⟩ := List.mem_map.mp hmem
      exact hg (Prod.mk.inj hu).1
  unfold occurrences
  rw [List.count_flatMap]
  cases f <;> simp [Field.all, hcount]

theorem byBlock_addHit (block : String) (s : TermStats) (hit : Field × String) :
    (addHit block s hit).byBlock = alterTerm s.byBlock block hit.2 (·.addField hit.1) := by
  obtain ⟨f, t⟩ := hit
  cases f <;> rfl

theorem fieldCounts_addHit (block : String) (s : TermStats) (hit : Field × String) (f : Field) :
    (addHit block s hit).fieldCounts f =
      if f = hit.1 then countUp (s.fieldCounts f) hit.2 else s.fieldCounts f := by
  obtain ⟨g, t⟩ := hit
  cases f <;> cases g <;> rfl

theorem overall_addHit (block : String) (s : TermStats) (hit : Field × String) :
    (addHit block s hit).overall = s.overall := by
  obtain ⟨f, t⟩ := hit
  cases f <;> rfl

theorem documents_addHit (block : String) (s : TermStats) (hit : Field × String) :
    (addHit block s hit).documents = s.documents := by
  obtain ⟨f, t⟩ := hit
  cases f <;> rfl

/-! ## One block -/

/-- A block adds every hit of the term in the field. -/
theorem get_termCount_addBlock (f : Field) (b t : String) (s : TermStats)
    (e : String × FieldHits) :
    (termCount (addBlock s e).byBlock b t).get f =
      (termCount s.byBlock b t).get f + if b = e.1 then (e.2.get f).count t else 0 := by
  have hhits : (termCount ((occurrences e.2).foldl (addHit e.1) s).byBlock b t).get f =
      (termCount s.byBlock b t).get f +
        (occurrences e.2).countP fun hit => decide (b = e.1) && hit == (f, t) := by
    refine foldl_add_countP (fun s => (termCount s.byBlock b t).get f) (fun s hit => ?_) _ s
    obtain ⟨g, u⟩ := hit
    rw [byBlock_addHit, read_alterTerm (·.get f) (fun c => TermCount.get_addField c f g)]
    grind
  have hdocs : ∀ m, (termCount ((hitTerms e.2).foldl
      (fun m t' => alterTerm m e.1 t' TermCount.addDocument) m) b t).get f =
      (termCount m b t).get f := by
    refine foldl_unchanged (fun m => (termCount m b t).get f) (fun m t' => ?_) _
    rw [read_alterTerm (·.get f) (n := 0) (fun c => TermCount.get_addDocument c f), ite_self,
      Nat.add_zero]
  refine (hdocs _).trans (hhits.trans ?_)
  rw [← count_occurrences]
  by_cases hb : b = e.1
  · simp only [hb, decide_true, Bool.true_and, if_true]
    rfl
  · simp [hb]

/-- A block adds one record to each term that hits. -/
theorem documents_termCount_addBlock (b t : String) (s : TermStats) (e : String × FieldHits) :
    (termCount (addBlock s e).byBlock b t).documents =
      (termCount s.byBlock b t).documents +
        if decide (b = e.1 ∧ t ∈ hitTerms e.2) then 1 else 0 := by
  have hhits : (termCount ((occurrences e.2).foldl (addHit e.1) s).byBlock b t).documents =
      (termCount s.byBlock b t).documents := by
    refine foldl_unchanged (fun s => (termCount s.byBlock b t).documents) (fun s hit => ?_) _ s
    rw [byBlock_addHit, read_alterTerm (·.documents) (n := 0)
      (fun c => TermCount.documents_addField c hit.1), ite_self, Nat.add_zero]
  have hdocs : ∀ m, (termCount ((hitTerms e.2).foldl
      (fun m t' => alterTerm m e.1 t' TermCount.addDocument) m) b t).documents =
      (termCount m b t).documents +
        (hitTerms e.2).countP fun t' => decide (b = e.1) && t' == t := by
    refine foldl_add_countP (fun m => (termCount m b t).documents) (fun m t' => ?_) _
    rw [read_alterTerm (·.documents) TermCount.documents_addDocument]
    grind
  -- each term that hits is counted once
  have hcount : (hitTerms e.2).countP (· == t) = if t ∈ hitTerms e.2 then 1 else 0 :=
    (nodup_eraseDups _).count
  refine (hdocs _).trans ?_
  rw [hhits]
  by_cases hb : b = e.1
  · simp only [hb, decide_true, Bool.true_and, hcount, true_and, decide_eq_true_eq]
  · simp [hb]

theorem countOf_fieldCounts_addBlock (f : Field) (t : String) (s : TermStats)
    (e : String × FieldHits) :
    countOf ((addBlock s e).fieldCounts f) t =
      countOf (s.fieldCounts f) t + (e.2.get f).count t := by
  have hhits : countOf (((occurrences e.2).foldl (addHit e.1) s).fieldCounts f) t =
      countOf (s.fieldCounts f) t + (occurrences e.2).countP (· == (f, t)) := by
    refine foldl_add_countP (fun s => countOf (s.fieldCounts f) t) (fun s hit => ?_) _ s
    obtain ⟨g, u⟩ := hit
    rw [fieldCounts_addHit, apply_ite (countOf · t), countOf_countUp]
    grind
  have hfields : (addBlock s e).fieldCounts f =
      ((occurrences e.2).foldl (addHit e.1) s).fieldCounts f := by
    cases f <;> rfl
  rw [hfields, hhits, ← count_occurrences]
  rfl

theorem overall_addBlock (s : TermStats) (e : String × FieldHits) :
    (addBlock s e).overall = s.overall :=
  foldl_unchanged (·.overall) (overall_addHit e.1) _ s

theorem overall_addBlocks (s : TermStats) (m : HitMap) :
    (m.foldl addBlock s).overall = s.overall :=
  foldl_unchanged (·.overall) overall_addBlock m s

theorem documents_addBlock (s : TermStats) (e : String × FieldHits) :
    (addBlock s e).documents = s.documents :=
  foldl_unchanged (·.documents) (documents_addHit e.1) _ s

/-! ## One record -/

theorem get_termCount_addRecord (f : Field) (b t : String) (s : TermStats) (m : HitMap) :
    (termCount (addRecord s m).byBlock b t).get f = (termCount s.byBlock b t).get f +
      (m.map fun e => if b = e.1 then (e.2.get f).count t else 0).sum :=
  foldl_add_sum (fun s => (termCount s.byBlock b t).get f) (get_termCount_addBlock f b t) m s

theorem documents_termCount_addRecord (b t : String) (s : TermStats) (m : HitMap) :
    (termCount (addRecord s m).byBlock b t).documents = (termCount s.byBlock b t).documents +
      m.countP fun e => decide (b = e.1 ∧ t ∈ hitTerms e.2) :=
  foldl_add_countP (fun s => (termCount s.byBlock b t).documents)
    (documents_termCount_addBlock b t) m s

theorem countOf_fieldCounts_addRecord (f : Field) (t : String) (s : TermStats) (m : HitMap) :
    countOf ((addRecord s m).fieldCounts f) t =
      countOf (s.fieldCounts f) t + (m.map fun e => (e.2.get f).count t).sum := by
  have hfields : (addRecord s m).fieldCounts f = (m.foldl addBlock s).fieldCounts f := by
    cases f <;> rfl
  rw [hfields]
  exact foldl_add_sum (fun s => countOf (s.fieldCounts f) t) (countOf_fieldCounts_addBlock f t) m s

/-- A term counts once for the record, in however many blocks it hits. -/
theorem countOf_overall_addRecord (t : String) (s : TermStats) (m : HitMap) :
    countOf (addRecord s m).overall t =
      countOf s.overall t + if decide (t ∈ recordTerms m) then 1 else 0 := by
  have hterms : ∀ o, countOf ((recordTerms m).foldl countUp o) t =
      countOf o t + (recordTerms m).countP (· == t) := by
    refine foldl_add_countP (countOf · t) (fun o t' => ?_) _
    rw [countOf_countUp]
    grind
  have hcount : (recordTerms m).countP (· == t) = if t ∈ recordTerms m then 1 else 0 :=
    (nodup_eraseDups _).count
  refine (hterms _).trans ?_
  rw [overall_addBlocks, hcount]
  simp only [decide_eq_true_eq]

theorem documents_addRecord (s : TermStats) (m : HitMap) :
    (addRecord s m).documents = s.documents + 1 :=
  congrArg (· + 1) (foldl_unchanged (·.documents) documents_addBlock m s)

theorem mem_recordTerms {m : HitMap} {t : String} :
    t ∈ recordTerms m ↔ ∃ e ∈ m, t ∈ hitTerms e.2 := by
  unfold recordTerms
  rw [List.mem_eraseDups, List.mem_flatMap]

theorem mem_keys_overall_addRecord (t : String) (s : TermStats) (m : HitMap) :
    t ∈ (addRecord s m).overall.keys ↔ t ∈ s.overall.keys ∨ t ∈ recordTerms m := by
  have hterms : ∀ (ts : List String) (o : Assoc String Nat),
      t ∈ (ts.foldl countUp o).keys ↔ t ∈ o.keys ∨ ∃ t' ∈ ts, t = t' :=
    foldl_or_exists (t ∈ ·.keys) fun o t' => Assoc.mem_keys_alter _ t' t o
  refine (hterms _ _).trans ?_
  rw [overall_addBlocks, exists_eq_right']

/-! ## What is listed -/

/-- The term is listed for the block: it is a usable term of it, and the block is not excluded, or
it hit in it. -/
def IsListed (q : Option Query) (hs : List HitMap) (b t : String) : Prop :=
  (∃ q', q = some q' ∧ ∃ bl ∈ q'.blocks, bl.exclude = false ∧ b = bl.name ∧ t ∈ bl.usableTerms) ∨
    ∃ m ∈ hs, ∃ e ∈ m, b = e.1 ∧ t ∈ hitTerms e.2

section Listed

variable {has : Assoc String BlockStats → Prop} {gives : String → String → Prop}

/-- What a change brings about for its block and term, a block brings about for those that hit. -/
theorem has_addBlock (h : ∀ m b t f, has (alterTerm m b t f) ↔ has m ∨ gives b t)
    (s : TermStats) (e : String × FieldHits) :
    has (addBlock s e).byBlock ↔ has s.byBlock ∨ ∃ t ∈ hitTerms e.2, gives e.1 t := by
  have hhits : has ((occurrences e.2).foldl (addHit e.1) s).byBlock ↔
      has s.byBlock ∨ ∃ hit ∈ occurrences e.2, gives e.1 hit.2 := by
    refine foldl_or_exists (fun s => has s.byBlock) (fun s hit => ?_) _ s
    rw [byBlock_addHit, h]
  have hdocs : ∀ m, has ((hitTerms e.2).foldl
      (fun m t => alterTerm m e.1 t TermCount.addDocument) m) ↔
      has m ∨ ∃ t ∈ hitTerms e.2, gives e.1 t :=
    foldl_or_exists has (fun m t => h m e.1 t _) _
  have hterms : (∃ hit ∈ occurrences e.2, gives e.1 hit.2) ↔ ∃ t ∈ hitTerms e.2, gives e.1 t := by
    simp only [mem_hitTerms, Prod.exists, mem_occurrences]
    exact ⟨fun ⟨f, t, ht, hg⟩ => ⟨t, ⟨f, ht⟩, hg⟩, fun ⟨t, ⟨f, ht⟩, hg⟩ => ⟨f, t, ht, hg⟩⟩
  refine (hdocs _).trans ?_
  rw [hhits, hterms, or_assoc, or_self]

theorem has_addRecord (h : ∀ m b t f, has (alterTerm m b t f) ↔ has m ∨ gives b t)
    (s : TermStats) (m : HitMap) :
    has (addRecord s m).byBlock ↔ has s.byBlock ∨ ∃ e ∈ m, ∃ t ∈ hitTerms e.2, gives e.1 t :=
  foldl_or_exists (fun s => has s.byBlock) (has_addBlock h) m s

theorem has_seed (h : ∀ m b t f, has (alterTerm m b t f) ↔ has m ∨ gives b t) (q : Query) :
    has (seed q) ↔
      has [] ∨ ∃ bl ∈ q.blocks, bl.exclude = false ∧ ∃ t ∈ bl.usableTerms, gives bl.name t := by
  have hblock : ∀ m (bl : Block), has (bl.usableTerms.foldl (fun m t => alterTerm m bl.name t id) m)
      ↔ has m ∨ ∃ t ∈ bl.usableTerms, gives bl.name t := fun m bl =>
    foldl_or_exists has (fun m t => h m bl.name t id) _ m
  refine (foldl_or_exists has hblock _ _).trans (or_congr_right ?_)
  simp only [List.mem_filter, Bool.not_eq_true', and_assoc]

/-- What an aggregation starts with: the tables of its query. -/
def start (q : Option Query) : TermStats where
  byBlock := (q.map seed).getD []

/-- **What the tables of an aggregation have is what its query and its hits give.** -/
theorem has_aggregate (h : ∀ m b t f, has (alterTerm m b t f) ↔ has m ∨ gives b t)
    (hempty : ¬has []) (q : Option Query) (hs : List HitMap) :
    has (aggregate q hs).byBlock ↔ ∃ b t, IsListed q hs b t ∧ gives b t := by
  have hseed : has (start q).byBlock ↔ ∃ q', q = some q' ∧
      ∃ bl ∈ q'.blocks, bl.exclude = false ∧ ∃ t ∈ bl.usableTerms, gives bl.name t := by
    cases q with
    | none => simp [start, hempty]
    | some q => simpa [start, hempty] using has_seed h q
  refine (foldl_or_exists (fun s => has s.byBlock) (has_addRecord h) hs (start q)).trans ?_
  refine (or_congr_left hseed).trans ?_
  unfold IsListed
  constructor
  · rintro (⟨q', hq, bl, hbl, hex, t, ht, hg⟩ | ⟨m, hm, e, he, t, ht, hg⟩)
    · exact ⟨bl.name, t, .inl ⟨q', hq, bl, hbl, hex, rfl, ht⟩, hg⟩
    · exact ⟨e.1, t, .inr ⟨m, hm, e, he, rfl, ht⟩, hg⟩
  · rintro ⟨_, t, ⟨q', hq, bl, hbl, hex, rfl, ht⟩ | ⟨m, hm, e, he, rfl, ht⟩, hg⟩
    · exact .inl ⟨q', hq, bl, hbl, hex, t, ht, hg⟩
    · exact .inr ⟨m, hm, e, he, t, ht, hg⟩

end Listed

/-- What a query starts with counts nothing. -/
theorem termCount_start (q : Option Query) (b t : String) :
    termCount (start q).byBlock b t = {} := by
  have hterm : ∀ m b' t', termCount (alterTerm m b' t' id) b t = termCount m b t := by
    intro m b' t'
    rw [termCount_alterTerm]
    split
    · rename_i h
      rw [h.1, h.2]
      rfl
    · rfl
  have hblock : ∀ m (bl : Block), termCount
      (bl.usableTerms.foldl (fun m t => alterTerm m bl.name t id) m) b t = termCount m b t :=
    fun m bl => foldl_unchanged (termCount · b t) (fun m t' => hterm m bl.name t') _ m
  cases q with
  | none => rfl
  | some q => exact foldl_unchanged (termCount · b t) hblock _ []

theorem mem_keys_alterTerm (m : Assoc String BlockStats) (block term : String)
    (f : TermCount → TermCount) (b t : String) :
    t ∈ (((alterTerm m block term f).lookup b).getD []).keys ↔
      t ∈ ((m.lookup b).getD []).keys ∨ b = block ∧ t = term := by
  unfold alterTerm
  rw [Assoc.lookup_alter]
  by_cases hb : b = block
  · rw [if_pos hb, Option.getD_some, Assoc.mem_keys_alter]
    simp [hb]
  · simp [hb]

theorem mem_allTerms_alterTerm (m : Assoc String BlockStats) (block term : String)
    (f : TermCount → TermCount) (t : String) :
    t ∈ allTerms (alterTerm m block term f) ↔ t ∈ allTerms m ∨ t = term := by
  unfold alterTerm allTerms
  induction m with
  | nil => simp [Assoc.alter, Assoc.keys]
  | cons e m ih =>
    obtain ⟨b, ts⟩ := e
    unfold Assoc.alter
    split
    · rw [List.flatMap_cons, List.flatMap_cons, List.mem_append, List.mem_append,
        Option.getD_some, Assoc.mem_keys_alter, or_right_comm]
    · rw [List.flatMap_cons, List.flatMap_cons, List.mem_append, List.mem_append, ih, or_assoc]

section Aggregate

variable (q : Option Query) (hs : List HitMap)

/-- The blocks of an aggregation are those with a listed term, -/
theorem mem_keys_byBlock_aggregate (b : String) :
    b ∈ (aggregate q hs).byBlock.keys ↔ ∃ t, IsListed q hs b t := by
  have h := @has_aggregate (b ∈ ·.keys) (fun b' _ => b = b')
    (fun m b' t f => Assoc.mem_keys_alter _ b' b m) List.not_mem_nil q hs
  rw [h]
  exact ⟨fun ⟨_, t, ht, hb⟩ => ⟨t, hb ▸ ht⟩, fun ⟨t, ht⟩ => ⟨b, t, ht, rfl⟩⟩

/-- their terms those that are listed for them, -/
theorem mem_terms_aggregate (b t : String) :
    t ∈ ((aggregate q hs).block b).keys ↔ IsListed q hs b t := by
  have h := @has_aggregate (fun m => t ∈ ((m.lookup b).getD []).keys)
    (fun b' t' => b = b' ∧ t = t') (fun m b' t' f => mem_keys_alterTerm m b' t' f b t)
    List.not_mem_nil q hs
  refine h.trans ⟨?_, fun ht => ⟨b, t, ht, rfl, rfl⟩⟩
  rintro ⟨_, _, ht, rfl, rfl⟩
  exact ht

theorem mem_allTerms_aggregate (t : String) :
    t ∈ allTerms (aggregate q hs).byBlock ↔ ∃ b, IsListed q hs b t := by
  have h := @has_aggregate (t ∈ allTerms ·) (fun _ t' => t = t')
    (fun m b t' f => mem_allTerms_alterTerm m b t' f t) List.not_mem_nil q hs
  rw [h]
  exact ⟨fun ⟨b, _, ht, he⟩ => ⟨b, he ▸ ht⟩, fun ⟨b, ht⟩ => ⟨b, t, ht, rfl⟩⟩

/-- and the terms of all blocks are those of the overall counts: what hit is listed already, and the
others are put in at the end. -/
theorem mem_keys_overall_aggregate (t : String) :
    t ∈ (aggregate q hs).overall.keys ↔ ∃ b, IsListed q hs b t := by
  have hcounted : ∀ s, t ∈ (hs.foldl addRecord s).overall.keys ↔
      t ∈ s.overall.keys ∨ ∃ m ∈ hs, t ∈ recordTerms m :=
    foldl_or_exists (fun s : TermStats => t ∈ s.overall.keys) (mem_keys_overall_addRecord t) hs
  have hput : ∀ (ts : List String) (o : Assoc String Nat),
      t ∈ (ts.foldl (fun o t' => o.putIfNew t' 0) o).keys ↔ t ∈ o.keys ∨ ∃ t' ∈ ts, t = t' :=
    foldl_or_exists (t ∈ ·.keys) fun o t' => Assoc.mem_keys_alter _ t' t o
  refine (hput _ _).trans ?_
  rw [exists_eq_right', hcounted]
  refine (or_congr_right (mem_allTerms_aggregate q hs t)).trans (or_iff_right_of_imp ?_)
  rintro (h | ⟨m, hm, ht⟩)
  · exact absurd h List.not_mem_nil
  · obtain ⟨e, he, ht⟩ := mem_recordTerms.mp ht
    exact ⟨e.1, .inr ⟨m, hm, e, he, rfl, ht⟩⟩

/-! ## Counts -/

/-- The hits of a term of a block in a field are those of all hit maps. -/
theorem get_termCount_aggregate (b t : String) (f : Field) :
    (termCount (aggregate q hs).byBlock b t).get f =
      (hs.map fun m => (m.map fun e => if b = e.1 then (e.2.get f).count t else 0).sum).sum := by
  have h := foldl_add_sum (fun s : TermStats => (termCount s.byBlock b t).get f)
    (get_termCount_addRecord f b t) hs (start q)
  refine h.trans ?_
  simp only [termCount_start]
  cases f <;> exact Nat.zero_add _

/-- Its documents are the blocks of that name, in all hit maps, that it hit. -/
theorem documents_termCount_aggregate (b t : String) :
    (termCount (aggregate q hs).byBlock b t).documents =
      (hs.map fun m => m.countP fun e => decide (b = e.1 ∧ t ∈ hitTerms e.2)).sum := by
  have h := foldl_add_sum (fun s : TermStats => (termCount s.byBlock b t).documents)
    (documents_termCount_addRecord b t) hs (start q)
  refine h.trans ?_
  simp only [termCount_start]
  exact Nat.zero_add _

/-- The hits of a field count in whatever block. -/
theorem countOf_fieldCounts_aggregate (f : Field) (t : String) :
    countOf ((aggregate q hs).fieldCounts f) t =
      (hs.map fun m => (m.map fun e => (e.2.get f).count t).sum).sum := by
  have hfields : (aggregate q hs).fieldCounts f = (hs.foldl addRecord (start q)).fieldCounts f := by
    cases f <;> rfl
  have h := foldl_add_sum (fun s : TermStats => countOf (s.fieldCounts f) t)
    (countOf_fieldCounts_addRecord f t) hs (start q)
  rw [hfields]
  refine h.trans ?_
  cases f <;> exact Nat.zero_add _

/-- A term counts once for each hit map that it is in. -/
theorem countOf_overall_aggregate (t : String) :
    countOf (aggregate q hs).overall t = hs.countP fun m => decide (t ∈ recordTerms m) := by
  have hput : ∀ (ts : List String) (o : Assoc String Nat),
      countOf (ts.foldl (fun o t' => o.putIfNew t' 0) o) t = countOf o t :=
    foldl_unchanged (countOf · t) fun o t' => countOf_putIfNew o t' t
  have h := foldl_add_countP (fun s : TermStats => countOf s.overall t)
    (countOf_overall_addRecord t) hs (start q)
  exact (hput _ _).trans (h.trans (Nat.zero_add _))

theorem documents_aggregate : (aggregate q hs).documents = hs.length := by
  have h : (hs.foldl addRecord (start q)).documents = 0 + hs.countP fun _ => true :=
    foldl_add_countP (fun s : TermStats => s.documents) documents_addRecord hs (start q)
  refine h.trans ?_
  rw [List.countP_true, Nat.zero_add]

end Aggregate

end TermStats

end CiteSieve
