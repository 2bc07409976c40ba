/-!
# Ordered maps

A map whose keys stay in the order in which they were first put in, as a list of pairs without
repeated keys. Reading is `List.lookup`.

* `keys_put`: putting a value under a key keeps the keys, or adds the key at the end.
* `lookup_put`: only the value under that key changes.
* `lookup_of_mem`: every pair of a map is found.
* `nodup_keys_ofList`, `mem_of_mem_ofList`: the map of a list of pairs.
* `ofList_of_nodup`: pairs without repeated keys are a map as they stand.
-/

namespace CiteSieve

/-- Pairs of keys and values, keys in the order of their first appearance. -/
abbrev Assoc (α β : Type) := List (α × β)

namespace Assoc

variable {α β : Type} [DecidableEq α]

/-- The keys in order. -/
def keys (m : Assoc α β) : List α :=
  m.map Prod.fst

/-- Put `f` of the value under `k`, which is `none` if there is none. -/
def alter (f : Option β → β) (k : α) : Assoc α β → Assoc α β
  | [] => [(k, f none)]
  | (k', v) :: m => if k' = k then (k', f (some v)) :: m else (k', v) :: alter f k m

/-- Put `v` under `k`. -/
def put (m : Assoc α β) (k : α) (v : β) : Assoc α β :=
  m.alter (fun _ => v) k

/-- Put `v` under `k` unless there is a value already. -/
def putIfNew (m : Assoc α β) (k : α) (v : β) : Assoc α β :=
  m.alter (fun old => old.getD v) k

/-- The map of a list of pairs: the first place and the last value of each key. -/
def ofList (kvs : List (α × β)) : Assoc α β :=
  kvs.foldl (fun m kv => m.put kv.1 kv.2) []

/-! ## Laws -/

theorem keys_alter (f : Option β → β) (k : α) (m : Assoc α β) :
    (m.alter f k).keys = if k ∈ m.keys then m.keys else m.keys ++ [k] := by
  induction m with
  | nil => simp [alter, keys]
  | cons e m ih =>
    obtain ⟨k', v⟩ := e
    by_cases h : k' = k
    · simp [alter, keys, h]
    · have h' : ¬ k = k' := fun e => h e.symm
      simp only [keys] at ih
      by_cases hk : k ∈ m.map Prod.fst
      · simp only [hk, if_true] at ih
        simp [alter, keys, h, h', ih, hk]
      · simp only [hk, if_false] at ih
        simp [alter, keys, h, h', ih, hk]

theorem keys_put (m : Assoc α β) (k : α) (v : β) :
    (m.put k v).keys = if k ∈ m.keys then m.keys else m.keys ++ [k] :=
  keys_alter _ k m

theorem lookup_cons (k k' : α) (v : β) (m : Assoc α β) :
    List.lookup k ((k', v) :: m) = if k = k' then some v else m.lookup k := by
  by_cases h : k = k'
  · simp [h]
  · have hb : (k == k') = false := by simp [h]
    simp [List.lookup_cons, h, hb]

theorem lookup_alter (f : Option β → β) (k k' : α) (m : Assoc α β) :
    (m.alter f k).lookup k' = if k' = k then some (f (m.lookup k)) else m.lookup k' := by
  induction m with
  | nil => simp [alter, lookup_cons]
  | cons e m ih =>
    obtain ⟨k₀, v⟩ := e
    by_cases h₀ : k₀ = k
    · subst h₀
      by_cases h : k' = k₀ <;> simp [alter, lookup_cons, h]
    · have h₁ : ¬ k = k₀ := fun e => h₀ e.symm
      by_cases h : k' = k
      · subst h
        simp [alter, lookup_cons, h₀, h₁, ih]
      · simp [alter, lookup_cons, h₀, h, ih]

theorem lookup_put (m : Assoc α β) (k k' : α) (v : β) :
    (m.put k v).lookup k' = if k' = k then some v else m.lookup k' :=
  lookup_alter _ k k' m

theorem mem_keys_alter (f : Option β → β) (k k' : α) (m : Assoc α β) :
    k' ∈ (m.alter f k).keys ↔ k' ∈ m.keys ∨ k' = k := by
  rw [keys_alter]
  split
  · rename_i hk
    exact ⟨.inl, fun h => h.elim id fun e => e ▸ hk⟩
  · rw [List.mem_append, List.mem_singleton]

/-- The keys are those under which something is found. -/
theorem isSome_lookup_iff {m : Assoc α β} {k : α} : (m.lookup k).isSome = true ↔ k ∈ m.keys := by
  induction m with
  | nil => simp [keys]
  | cons e m ih =>
    obtain ⟨k', v⟩ := e
    rw [lookup_cons]
    by_cases h : k = k'
    · simp [keys, h]
    · simp only [keys] at ih
      simp [keys, h, ih]

theorem mem_of_lookup {m : Assoc α β} {k : α} {v : β} (h : m.lookup k = some v) :
    (k, v) ∈ m := by
  obtain ⟨before, behind, rfl, -⟩ := List.lookup_eq_some_iff.mp h
  exact List.mem_append_cons_self

/-- In a map every pair is found under its key. -/
theorem lookup_of_mem {m : Assoc α β} (h : m.keys.Nodup) {k : α} {v : β} (hm : (k, v) ∈ m) :
    m.lookup k = some v := by
  induction m with
  | nil => exact absurd hm List.not_mem_nil
  | cons e m ih =>
    obtain ⟨k', v'⟩ := e
    obtain ⟨hk, hnodup⟩ := List.nodup_cons.mp h
    rw [lookup_cons]
    rcases List.mem_cons.mp hm with he | hm
    · rw [Prod.mk.injEq] at he
      rw [if_pos he.1, he.2]
    · have hmem : k ∈ List.map Prod.fst m := List.mem_map_of_mem hm
      have hne : k ≠ k' := by
        rintro rfl
        exact hk hmem
      rw [if_neg hne, ih hnodup hm]

theorem nodup_keys_alter {m : Assoc α β} (h : m.keys.Nodup) (f : Option β → β) (k : α) :
    (m.alter f k).keys.Nodup := by
  rw [keys_alter]
  split
  · exact h
  · rename_i hk
    refine List.nodup_append.mpr ⟨h, by simp, ?_⟩
    intro a ha b hb hab
    rw [hab, List.mem_singleton.mp hb] at ha
    exact hk ha

theorem nodup_keys_put {m : Assoc α β} (h : m.keys.Nodup) (k : α) (v : β) :
    (m.put k v).keys.Nodup :=
  nodup_keys_alter h _ k

theorem mem_put {m : Assoc α β} {k : α} {v : β} {e : α × β} (h : e ∈ m.put k v) :
    e ∈ m ∨ e = (k, v) := by
  unfold put at h
  induction m with
  | nil => exact .inr (List.mem_singleton.mp h)
  | cons e' m ih =>
    obtain ⟨k', v'⟩ := e'
    unfold alter at h
    split at h
    · rename_i hk
      rcases List.mem_cons.mp h with rfl | h
      · exact .inr (by rw [hk])
      · exact .inl (List.mem_cons_of_mem _ h)
    · rcases List.mem_cons.mp h with rfl | h
      · exact .inl List.mem_cons_self
      · exact (ih h).imp_left (List.mem_cons_of_mem _)

theorem put_of_not_mem {m : Assoc α β} {k : α} (h : k ∉ m.keys) (v : β) :
    m.put k v = m ++ [(k, v)] := by
  unfold put
  induction m with
  | nil => rfl
  | cons e m ih =>
    obtain ⟨k', v'⟩ := e
    have h' : k ∉ k' :: keys m := h
    rw [List.mem_cons, not_or] at h'
    rw [alter, if_neg (fun e => h'.1 e.symm), ih h'.2, List.cons_append]

theorem foldl_put_of_nodup (m kvs : Assoc α β) (h : (m.keys ++ kvs.keys).Nodup) :
    kvs.foldl (fun m kv => m.put kv.1 kv.2) m = m ++ kvs := by
  induction kvs generalizing m with
  | nil => exact (List.append_nil m).symm
  | cons e kvs ih =>
    obtain ⟨k, v⟩ := e
    have hk : k ∉ m.keys := by
      intro hm
      exact (List.nodup_append.mp h).2.2 k hm k List.mem_cons_self rfl
    have hm : keys (m ++ [(k, v)]) ++ keys kvs = keys m ++ keys ((k, v) :: kvs) := by
      simp only [keys, List.map_append, List.map_cons, List.map_nil, List.append_assoc,
        List.singleton_append]
    rw [List.foldl_cons, put_of_not_mem hk, ih _ (by rwa [hm]), List.append_assoc,
      List.singleton_append]

/-- A map has no repeated keys, and it holds nothing but the pairs of its list. -/
theorem foldl_put_spec : ∀ (kvs m : Assoc α β), m.keys.Nodup →
    (kvs.foldl (fun m kv => m.put kv.1 kv.2) m).keys.Nodup ∧
      ∀ e ∈ kvs.foldl (fun m kv => m.put kv.1 kv.2) m, e ∈ m ∨ e ∈ kvs
  | [], _, hm => ⟨hm, fun _ he => .inl he⟩
  | kv :: kvs, m, hm => by
    obtain ⟨hnodup, hmem⟩ := foldl_put_spec kvs (m.put kv.1 kv.2) (nodup_keys_put hm kv.1 kv.2)
    refine ⟨hnodup, fun e he => ?_⟩
    rcases hmem e he with he | he
    · rcases mem_put he with he | rfl
      · exact .inl he
      · exact .inr List.mem_cons_self
    · exact .inr (List.mem_cons_of_mem kv he)

theorem nodup_keys_ofList (kvs : List (α × β)) : (ofList kvs).keys.Nodup :=
  (foldl_put_spec kvs [] List.nodup_nil).1

theorem mem_of_mem_ofList {kvs : List (α × β)} {e : α × β} (h : e ∈ ofList kvs) : e ∈ kvs :=
  ((foldl_put_spec kvs [] List.nodup_nil).2 e h).resolve_left List.not_mem_nil

/-- Pairs without repeated keys are a map already. -/
theorem ofList_of_nodup {kvs : Assoc α β} (h : kvs.keys.Nodup) : ofList kvs = kvs :=
  foldl_put_of_nodup [] kvs h

end Assoc

end CiteSieve
