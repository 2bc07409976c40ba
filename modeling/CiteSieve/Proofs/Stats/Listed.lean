import Mathlib.Data.List.Induction
import CiteSieve.Proofs.Stats.Counted

/-!
# The order of statistics

Statistics list the terms of their query first, block by block and term by term, each once, and
behind them what hits besides. Every step of the aggregation changes the counts of one term of one
block: such a change keeps what is listed at its place, and lists nothing twice.

* `TermStats.listing`: what a query lists, in order; `keys_byBlock_start`, `keys_block_start`: the
  tables that an aggregation starts with list just that.
* `TermStats.IsTable`, `TermStats.Extends`: tables that list nothing twice, and tables that list
  what others list in front.
* `TermStats.byBlock_aggregate`: what every change of a term does, an aggregation does.
-/

namespace CiteSieve

/-- A list that every step leaves alone, or puts something new behind, has each thing once, in the
order in which they came. -/
theorem foldl_eraseDups {σ α : Type} {step : σ → α → σ} (read : σ → List String)
    (new : α → Option String)
    (h : ∀ s a, read (step s a) = match new a with
      | none => read s
      | some k => if k ∈ read s then read s else read s ++ [k])
    {s : σ} (hs : read s = []) (as : List α) :
    read (as.foldl step s) = (as.filterMap new).eraseDups := by
  induction as using List.reverseRecOn with
  | nil => exact hs
  | append_singleton as a ih =>
    rw [List.foldl_concat, h, List.filterMap_append, ih]
    cases hk : new a with
    | none => simp [hk]
    | some k => simp [hk, eraseDups_concat]

namespace TermStats

/-! ## What a query lists -/

/-- The usable terms of the blocks of a query that are not excluded, each with the name of its
block, in order. -/
def listing : Option Query → List (String × String)
  | none => []
  | some q => (q.blocks.filter fun b => !b.exclude).flatMap fun b =>
    b.usableTerms.map fun t => (b.name, t)

/-- The names of the blocks in a listing. -/
def listedBlocks (q : Option Query) : List String :=
  (listing q).map Prod.fst

/-- The terms in a listing that belong to a block of the name. -/
def listedTerms (q : Option Query) (block : String) : List String :=
  (listing q).filterMap fun e => if e.1 = block then some e.2 else none

theorem mem_listing {q : Option Query} {block t : String} : (block, t) ∈ listing q ↔
    ∃ q', q = some q' ∧ ∃ b ∈ q'.blocks, b.exclude = false ∧ block = b.name ∧
      t ∈ b.usableTerms := by
  cases q with
  | none => exact iff_of_false List.not_mem_nil nofun
  | some q =>
    simp only [listing, List.mem_flatMap, List.mem_filter, Bool.not_eq_true', List.mem_map,
      Prod.mk.injEq, Option.some.injEq, exists_eq_left', and_assoc]
    grind

theorem byBlock_start (q : Option Query) :
    (start q).byBlock = (listing q).foldl (fun m e => alterTerm m e.1 e.2 id) [] := by
  cases q with
  | none => rfl
  | some q =>
    show seed q = _
    unfold seed listing
    rw [List.foldl_flatMap]
    simp only [List.foldl_map]

theorem keys_terms_alterTerm (m : Assoc String BlockStats) (block term : String)
    (f : TermCount → TermCount) (b : String) :
    (((alterTerm m block term f).lookup b).getD []).keys =
      if block = b then
        if term ∈ ((m.lookup b).getD []).keys then ((m.lookup b).getD []).keys
        else ((m.lookup b).getD []).keys ++ [term]
      else ((m.lookup b).getD []).keys := by
  unfold alterTerm
  rw [Assoc.lookup_alter]
  by_cases h : block = b
  · rw [if_pos h.symm, if_pos h, Option.getD_some, Assoc.keys_alter, h]
  · rw [if_neg fun e => h e.symm, if_neg h]

/-- An aggregation starts with the blocks that its query lists, in order, -/
theorem keys_byBlock_start (q : Option Query) :
    (start q).byBlock.keys = (listedBlocks q).eraseDups := by
  rw [byBlock_start, foldl_eraseDups Assoc.keys (fun e => some e.1) _ rfl, listedBlocks,
    List.filterMap_eq_map']
  exact fun m e => Assoc.keys_alter _ e.1 m

/-- and with the terms of each block, in order. -/
theorem keys_block_start (q : Option Query) (b : String) :
    ((start q).block b).keys = (listedTerms q b).eraseDups := by
  unfold block
  rw [byBlock_start]
  refine foldl_eraseDups (fun m : Assoc String BlockStats => ((m.lookup b).getD []).keys) _
    (fun m e => ?_) rfl _
  rw [keys_terms_alterTerm]
  split <;> simp [*]

/-! ## Changes of one term -/

/-- The tables list no block twice, and no term of a block. -/
structure IsTable (m : Assoc String BlockStats) : Prop where
  blocks : m.keys.Nodup
  terms : ∀ b, ((m.lookup b).getD []).keys.Nodup

/-- The second tables list in front what the first ones do. -/
structure Extends (m m' : Assoc String BlockStats) : Prop where
  blocks : m.keys <+: m'.keys
  terms : ∀ b, ((m.lookup b).getD []).keys <+: ((m'.lookup b).getD []).keys

theorem IsTable.alterTerm {m : Assoc String BlockStats} (h : IsTable m) (block term : String)
    (f : TermCount → TermCount) : IsTable (alterTerm m block term f) where
  blocks := Assoc.nodup_keys_alter h.blocks _ block
  terms := by
    intro b
    unfold TermStats.alterTerm
    rw [Assoc.lookup_alter]
    split
    · exact Assoc.nodup_keys_alter (h.terms block) _ term
    · exact h.terms b

theorem extends_alterTerm (m : Assoc String BlockStats) (block term : String)
    (f : TermCount → TermCount) : Extends m (alterTerm m block term f) where
  blocks := by
    unfold alterTerm
    rw [Assoc.keys_alter]
    split
    · exact List.prefix_rfl
    · exact List.prefix_append _ _
  terms := by
    intro b
    rw [keys_terms_alterTerm]
    split_ifs
    · exact List.prefix_rfl
    · exact List.prefix_append _ _
    · exact List.prefix_rfl

/-! ## Aggregation -/

section Aggregate

variable {R : Assoc String BlockStats → Assoc String BlockStats → Prop}

/-- **What every change of a term does**, an aggregation does to the tables it starts with. -/
theorem byBlock_aggregate (hrefl : ∀ m, R m m)
    (htrans : ∀ {m m' m''}, R m m' → R m' m'' → R m m'')
    (h : ∀ m b t f, R m (alterTerm m b t f)) (q : Option Query) (hs : List HitMap) :
    R (start q).byBlock (aggregate q hs).byBlock := by
  have hhit : ∀ b (s : TermStats) hit, R s.byBlock (addHit b s hit).byBlock := by
    intro b s hit
    rw [byBlock_addHit]
    exact h s.byBlock b hit.2 _
  have hblock : ∀ (s : TermStats) e, R s.byBlock (addBlock s e).byBlock := fun s e =>
    htrans (foldl_rel (R := fun s s' : TermStats => R s.byBlock s'.byBlock) (fun s => hrefl _)
      htrans (hhit e.1) (occurrences e.2) s)
      (foldl_rel hrefl htrans (fun m t => h m e.1 t _) (hitTerms e.2) _)
  have hrecord : ∀ (s : TermStats) (m : HitMap), R s.byBlock (addRecord s m).byBlock := fun s m =>
    foldl_rel (R := fun s s' : TermStats => R s.byBlock s'.byBlock) (fun s => hrefl _) htrans
      hblock m s
  exact foldl_rel (R := fun s s' : TermStats => R s.byBlock s'.byBlock) (fun s => hrefl _) htrans
    hrecord hs (start q)

/-- An aggregation lists nothing twice. -/
theorem isTable_aggregate (q : Option Query) (hs : List HitMap) :
    IsTable (aggregate q hs).byBlock := by
  have hempty : IsTable [] := ⟨List.nodup_nil, fun _ => List.nodup_nil⟩
  have hstart : IsTable (start q).byBlock := by
    rw [byBlock_start]
    exact foldl_rel (R := fun m m' => IsTable m → IsTable m') (fun _ => id)
      (fun h h' hm => h' (h hm)) (fun m e hm => hm.alterTerm e.1 e.2 id) (listing q) [] hempty
  exact byBlock_aggregate (R := fun m m' => IsTable m → IsTable m') (fun _ => id)
    (fun h h' hm => h' (h hm)) (fun m b t f hm => hm.alterTerm b t f) q hs hstart

/-- **An aggregation lists in front what its query does.** -/
theorem extends_aggregate (q : Option Query) (hs : List HitMap) :
    Extends (start q).byBlock (aggregate q hs).byBlock :=
  byBlock_aggregate (R := Extends) (fun _ => ⟨List.prefix_rfl, fun _ => List.prefix_rfl⟩)
    (fun h h' => ⟨h.blocks.trans h'.blocks, fun b => (h.terms b).trans (h'.terms b)⟩)
    extends_alterTerm q hs

end Aggregate

end TermStats

end CiteSieve
