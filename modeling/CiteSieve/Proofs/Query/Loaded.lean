import CiteSieve.Proofs.Query.Saved
import CiteSieve.Proofs.Query.Shape

/-!
# Which documents are loaded

A document is decoded member by member, and what is made of it is what it says
(`Query.ofDocument_eq_ok_iff`). So it is loaded exactly if it is a query; every other document is
refused, and so is every text that is no document.

* `Block.ofJson_eq_ok_iff`, `Selection.ofJson_eq_ok_iff`: what is made of the parts of a document.
* `Query.load_owes`: what is loaded and what is refused, from texts and from bytes.
-/

namespace CiteSieve

open Json (Member Reads)

/-! ## Blocks -/

namespace Block

/-- **What taking in a member does to a block.** -/
theorem takeMember_cases {b b' : Block} {k : String} {v : Json} (h : b.takeMember k v = .ok b') :
    (k = "name" ∧ v.toText = .ok b'.name ∧ b' = { b with name := b'.name }) ∨
    (k = "terms" ∧ Json.toList Json.toText v = .ok b'.terms ∧
      b' = { b with terms := b'.terms }) ∨
    (k = "isRegex" ∧ v.toBool = .ok b'.isRegex ∧ b' = { b with isRegex := b'.isRegex }) ∨
    (k = "exclude" ∧ v.toBool = .ok b'.exclude ∧ b' = { b with exclude := b'.exclude }) ∨
    (k = "id" ∧ v.toText = .ok b'.id ∧ b' = { b with id := b'.id }) ∨
    (k ∉ ["name", "terms", "isRegex", "exclude", "id"] ∧ b' = b) := by
  have h := Except.mapError_eq_ok h
  split at h
  · rename_i hk
    obtain ⟨x, hx, rfl⟩ := Except.map_eq_ok h
    exact .inl ⟨hk, hx, rfl⟩
  split at h
  · rename_i hk
    obtain ⟨x, hx, rfl⟩ := Except.map_eq_ok h
    exact .inr (.inl ⟨hk, hx, rfl⟩)
  split at h
  · rename_i hk
    obtain ⟨x, hx, rfl⟩ := Except.map_eq_ok h
    exact .inr (.inr (.inl ⟨hk, hx, rfl⟩))
  split at h
  · rename_i hk
    obtain ⟨x, hx, rfl⟩ := Except.map_eq_ok h
    exact .inr (.inr (.inr (.inl ⟨hk, hx, rfl⟩)))
  split at h
  · rename_i hk
    obtain ⟨x, hx, rfl⟩ := Except.map_eq_ok h
    exact .inr (.inr (.inr (.inr (.inl ⟨hk, hx, rfl⟩))))
  · rename_i h₁ h₂ h₃ h₄ h₅
    cases h
    exact .inr (.inr (.inr (.inr (.inr ⟨by simp [h₁, h₂, h₃, h₄, h₅], rfl⟩))))

/-- The parts of a block, each with the member that decides about it. -/
theorem reads_name : Reads takeMember "name" Json.toText name where
  here h := by have := takeMember_cases h; grind
  other _ h := by have := takeMember_cases h; grind
  takes _ h := by simp [takeMember, h, Except.map]

theorem reads_terms : Reads takeMember "terms" (Json.toList Json.toText) terms where
  here h := by have := takeMember_cases h; grind
  other _ h := by have := takeMember_cases h; grind
  takes _ h := by simp [takeMember, h, Except.map]

theorem reads_isRegex : Reads takeMember "isRegex" Json.toBool isRegex where
  here h := by have := takeMember_cases h; grind
  other _ h := by have := takeMember_cases h; grind
  takes _ h := by simp [takeMember, h, Except.map]

theorem reads_exclude : Reads takeMember "exclude" Json.toBool exclude where
  here h := by have := takeMember_cases h; grind
  other _ h := by have := takeMember_cases h; grind
  takes _ h := by simp [takeMember, h, Except.map]

theorem reads_id : Reads takeMember "id" Json.toText id where
  here h := by have := takeMember_cases h; grind
  other _ h := by have := takeMember_cases h; grind
  takes _ h := by simp [takeMember, h, Except.map]

variable {ms : List (String × Json)} {b : Block}

/-- What is made of the members of an object is the block that the object says. -/
theorem isIn_of_foldlM (hk : (Assoc.keys ms).Nodup) (hname : (ms.lookup "name").isSome = true)
    (h : ms.foldlM (fun b m => takeMember b m.1 m.2) { name := "" } = .ok b) : b.IsIn ms where
  name := by
    simpa only [Json.toText_eq_ok_iff] using
      Json.required_iff.mpr ⟨hname, reads_name.member hk h⟩
  terms := by simpa only [Json.toList_toText_eq_ok_iff] using reads_terms.member hk h
  isRegex := by simpa only [Json.toBool_eq_ok_iff] using reads_isRegex.member hk h
  exclude := by simpa only [Json.toBool_eq_ok_iff] using reads_exclude.member hk h
  id := by simpa only [Json.toText_eq_ok_iff] using reads_id.member hk h

/-- The block that an object says is what is made of its members. -/
theorem foldlM_of_isIn (hk : (Assoc.keys ms).Nodup) (h : b.IsIn ms) :
    (ms.lookup "name").isSome = true ∧
      ms.foldlM (fun b m => takeMember b m.1 m.2) { name := "" } = .ok b := by
  obtain ⟨hname, hterms, hisRegex, hexclude, hid⟩ := h
  simp only [← Json.toText_eq_ok_iff, ← Json.toBool_eq_ok_iff, ← Json.toList_toText_eq_ok_iff]
    at hname hterms hisRegex hexclude hid
  obtain ⟨hsome, hname⟩ := Json.required_iff.mp hname
  have hknown : ∀ k ∈ ["name", "terms", "isRegex", "exclude", "id"], ∀ v,
      ms.lookup k = some v → ∀ a, ∃ a', takeMember a k v = .ok a' := by
    intro k hk v hv a
    simp only [List.mem_cons, List.not_mem_nil, or_false] at hk
    rcases hk with rfl | rfl | rfl | rfl | rfl
    · exact reads_name.exists_take hname hv a
    · exact reads_terms.exists_take hterms hv a
    · exact reads_isRegex.exists_take hisRegex hv a
    · exact reads_exclude.exists_take hexclude hv a
    · exact reads_id.exists_take hid hv a
  have hother : ∀ k ∉ ["name", "terms", "isRegex", "exclude", "id"], ∀ v a,
      ∃ a', takeMember a k v = .ok a' := by
    intro k hk v a
    simp only [List.mem_cons, List.not_mem_nil, or_false, not_or] at hk
    exact ⟨a, by simp [takeMember, hk]⟩
  obtain ⟨b', hb'⟩ := Json.exists_foldlM_of_known _ hk hknown hother { name := "" }
  have hsame : b' = b := by
    have hn : b'.name = b.name := (reads_name.member hk hb').unique hname
    have ht : b'.terms = b.terms := (reads_terms.member hk hb').unique hterms
    have hr : b'.isRegex = b.isRegex := (reads_isRegex.member hk hb').unique hisRegex
    have he : b'.exclude = b.exclude := (reads_exclude.member hk hb').unique hexclude
    have hi : b'.id = b.id := (reads_id.member hk hb').unique hid
    cases b'
    simp only at hn ht hr he hi
    subst hn ht hr he hi
    rfl
  exact ⟨hsome, hsame ▸ hb'⟩

/-- **The block of a document** is the one that it says. -/
theorem ofJson_eq_ok_iff {v : Json} (hv : v.Keyed) : ofJson v = .ok b ↔ b.IsOf v := by
  constructor
  · intro h
    obtain ⟨b', hb', h⟩ := Except.bind_eq_ok h
    split at h
    · rename_i hname
      cases h
      cases v with
      | obj ms => exact ⟨ms, rfl, isIn_of_foldlM hv.nodup hname hb'⟩
      | _ => cases hb'
    · cases h
  · rintro ⟨ms, rfl, h⟩
    obtain ⟨hname, hfold⟩ := foldlM_of_isIn hv.nodup h
    have hmembers : Json.foldMembers takeMember { name := "" } (.obj ms) = .ok b := hfold
    unfold ofJson
    rw [hmembers]
    exact if_pos hname

end Block

/-! ## Operators -/

theorem Operator.ofJson_eq_ok_iff {v : Json} {o : Operator} :
    Operator.ofJson v = .ok o ↔ v = o.toJson := by
  constructor
  · intro h
    obtain ⟨s, hs, h⟩ := Except.bind_eq_ok h
    rw [Json.toText_eq_ok_iff.mp hs]
    split at h
    · rename_i o' ho
      cases h
      have hname : o.name = s := by simpa using List.find?_some ho
      rw [Operator.toJson, hname]
    · cases h
  · rintro rfl
    exact Operator.ofJson_toJson o

/-! ## Fields -/

namespace Selection

/-- **What taking in a member does to a choice of fields.** -/
theorem takeMember_cases {s s' : Selection} {k : String} {v : Json}
    (h : s.takeMember k v = .ok s') :
    (∃ f : Field, k = f.name ∧ v.toBool = .ok (s'.selects f) ∧
      ∀ g, g ≠ f → s'.selects g = s.selects g) ∨
    ((∀ f : Field, k ≠ f.name) ∧ s' = s) := by
  have h := Except.mapError_eq_ok h
  cases hf : Field.ofName? k with
  | none =>
    rw [hf] at h
    cases h
    refine .inr ⟨fun f hk => ?_, rfl⟩
    rw [hk, Field.ofName?_name] at hf
    cases hf
  | some f =>
    have hk : f.name = k := by simpa using List.find?_some hf
    rw [hf] at h
    refine .inl ⟨f, hk.symm, ?_⟩
    cases f <;> obtain ⟨x, hx, rfl⟩ := Except.map_eq_ok h <;>
      exact ⟨hx, fun g hg => by cases g <;> first | rfl | exact absurd rfl hg⟩

theorem reads_field (f : Field) : Reads takeMember f.name Json.toBool (·.selects f) where
  here h := by
    rcases takeMember_cases h with ⟨g, hg, hv, -⟩ | ⟨hk, -⟩
    · rwa [Field.name_injective hg]
    · exact absurd rfl (hk f)
  other hk h := by
    rcases takeMember_cases h with ⟨g, rfl, -, hrest⟩ | ⟨-, rfl⟩
    · exact hrest f fun e => hk (e ▸ rfl)
    · rfl
  takes _ h := by cases f <;> simp [takeMember, h, Except.map, Field.ofName?_name]

variable {ms : List (String × Json)} {s : Selection}

theorem isIn_of_foldlM (hk : (Assoc.keys ms).Nodup)
    (h : ms.foldlM (fun s m => takeMember s m.1 m.2) {} = .ok s) : s.IsIn ms := by
  intro f
  have hf := (reads_field f).member hk h
  simp only [Json.toBool_eq_ok_iff] at hf
  cases f <;> exact hf

theorem foldlM_of_isIn (hk : (Assoc.keys ms).Nodup) (h : s.IsIn ms) :
    ms.foldlM (fun s m => takeMember s m.1 m.2) {} = .ok s := by
  simp only [IsIn, ← Json.toBool_eq_ok_iff] at h
  have hknown : ∀ k ∈ Field.all.map Field.name, ∀ v, ms.lookup k = some v →
      ∀ a, ∃ a', takeMember a k v = .ok a' := by
    intro k hk v hv a
    obtain ⟨f, -, rfl⟩ := List.mem_map.mp hk
    exact (reads_field f).exists_take (h f) hv a
  have hother : ∀ k ∉ Field.all.map Field.name, ∀ v a, ∃ a', takeMember a k v = .ok a' := by
    intro k hk v a
    have hnone : Field.ofName? k = none := by
      rw [Field.ofName?, List.find?_eq_none]
      intro f hf
      exact fun e => hk (List.mem_map.mpr ⟨f, hf, by simpa using e⟩)
    exact ⟨a, by simp [takeMember, hnone]⟩
  obtain ⟨s', hs'⟩ := Json.exists_foldlM_of_known _ hk hknown hother {}
  have hsame : ∀ f, s'.selects f = s.selects f := by
    intro f
    have hf : Member ms f.name (fun v => v.toBool = .ok (s'.selects f))
        (s'.selects f = true) := by
      have hf := (reads_field f).member hk hs'
      cases f <;> exact hf
    exact hf.unique (h f)
  have : s' = s := by
    cases s'
    cases s
    exact congr (congr (congrArg mk (hsame .title)) (hsame .abstract)) (hsame .keywords)
  exact this ▸ hs'

/-- **The choice of fields of a document** is the one that it says. -/
theorem ofJson_eq_ok_iff {v : Json} (hv : v.Keyed) : ofJson v = .ok s ↔ s.IsOf v := by
  constructor
  · intro h
    cases v with
    | obj ms => exact ⟨ms, rfl, isIn_of_foldlM hv.nodup h⟩
    | _ => cases h
  · rintro ⟨ms, rfl, h⟩
    exact foldlM_of_isIn hv.nodup h

end Selection

/-! ## Queries -/

namespace Query

/-- **What taking in a member does to a query.** -/
theorem takeMember_cases {q q' : Query} {k : String} {v : Json} (h : q.takeMember k v = .ok q') :
    (k = "blocks" ∧ Json.toList Block.ofJson v = .ok q'.blocks ∧
      q' = { q with blocks := q'.blocks }) ∨
    (k = "operators" ∧ Json.toList Operator.ofJson v = .ok q'.operators ∧
      q' = { q with operators := q'.operators }) ∨
    (k = "caseInsensitive" ∧ v.toBool = .ok q'.caseInsensitive ∧
      q' = { q with caseInsensitive := q'.caseInsensitive }) ∨
    (k = "searchFields" ∧ Selection.ofJson v = .ok q'.searchFields ∧
      q' = { q with searchFields := q'.searchFields }) ∨
    (k ∉ ["blocks", "operators", "caseInsensitive", "searchFields"] ∧ q' = q) := by
  have h := Except.mapError_eq_ok h
  split at h
  · rename_i hk
    obtain ⟨x, hx, rfl⟩ := Except.map_eq_ok h
    exact .inl ⟨hk, hx, rfl⟩
  split at h
  · rename_i hk
    obtain ⟨x, hx, rfl⟩ := Except.map_eq_ok h
    exact .inr (.inl ⟨hk, hx, rfl⟩)
  split at h
  · rename_i hk
    obtain ⟨x, hx, rfl⟩ := Except.map_eq_ok h
    exact .inr (.inr (.inl ⟨hk, hx, rfl⟩))
  split at h
  · rename_i hk
    obtain ⟨x, hx, rfl⟩ := Except.map_eq_ok h
    exact .inr (.inr (.inr (.inl ⟨hk, hx, rfl⟩)))
  · rename_i h₁ h₂ h₃ h₄
    cases h
    exact .inr (.inr (.inr (.inr ⟨by simp [h₁, h₂, h₃, h₄], rfl⟩)))

/-- The parts of a query, each with the member that decides about it. -/
theorem reads_blocks : Reads takeMember "blocks" (Json.toList Block.ofJson) blocks where
  here h := by have := takeMember_cases h; grind
  other _ h := by have := takeMember_cases h; grind
  takes _ h := by simp [takeMember, h, Except.map]

theorem reads_operators :
    Reads takeMember "operators" (Json.toList Operator.ofJson) operators where
  here h := by have := takeMember_cases h; grind
  other _ h := by have := takeMember_cases h; grind
  takes _ h := by simp [takeMember, h, Except.map]

theorem reads_caseInsensitive :
    Reads takeMember "caseInsensitive" Json.toBool caseInsensitive where
  here h := by have := takeMember_cases h; grind
  other _ h := by have := takeMember_cases h; grind
  takes _ h := by simp [takeMember, h, Except.map]

theorem reads_searchFields :
    Reads takeMember "searchFields" Selection.ofJson searchFields where
  here h := by have := takeMember_cases h; grind
  other _ h := by have := takeMember_cases h; grind
  takes _ h := by simp [takeMember, h, Except.map]

variable {ms : List (String × Json)} {q : Query}

/-- What a part of a query is made of, below an object that repeats no key. -/
structure Decodes (q : Query) (ms : List (String × Json)) : Prop where
  blocks : Member ms "blocks" (fun v => Json.toList Block.ofJson v = .ok q.blocks) False
  operators : Member ms "operators" (fun v => Json.toList Operator.ofJson v = .ok q.operators)
    False
  caseInsensitive : Member ms "caseInsensitive" (fun v => v.toBool = .ok q.caseInsensitive)
    (q.caseInsensitive = true)
  searchFields : Member ms "searchFields" (fun v => Selection.ofJson v = .ok q.searchFields)
    (q.searchFields = {})

theorem decodes_iff (hms : (Json.obj ms).Keyed) : q.Decodes ms ↔ q.IsIn ms := by
  have hkeyed : ∀ {k v}, ms.lookup k = some v → v.Keyed := by
    intro k v hv
    exact hms.of_mem_members (k, v) (Assoc.mem_of_lookup hv)
  have hblocks : Member ms "blocks" (fun v => Json.toList Block.ofJson v = .ok q.blocks) False ↔
      Member ms "blocks" (fun v => ∃ vs, v = .arr vs ∧
        List.Forall₂ (fun v b => Block.IsOf b v) vs q.blocks) False :=
    Member.congr (fun v hv => Json.toList_eq_ok_iff_of_keyed Block.ofJson_eq_ok_iff (hkeyed hv))
      Iff.rfl
  have hfields : Member ms "searchFields" (fun v => Selection.ofJson v = .ok q.searchFields)
      (q.searchFields = {}) ↔
      Member ms "searchFields" (Selection.IsOf q.searchFields) (q.searchFields = {}) :=
    Member.congr (fun v hv => Selection.ofJson_eq_ok_iff (hkeyed hv)) Iff.rfl
  constructor
  · rintro ⟨hb, ho, hc, hs⟩
    simp only [Json.toList_eq_ok_iff_map Operator.ofJson_eq_ok_iff] at ho
    simp only [Json.toBool_eq_ok_iff] at hc
    exact ⟨hblocks.mp hb, ho, hc, hfields.mp hs⟩
  · rintro ⟨hb, ho, hc, hs⟩
    simp only [← Json.toList_eq_ok_iff_map Operator.ofJson_eq_ok_iff] at ho
    simp only [← Json.toBool_eq_ok_iff] at hc
    exact ⟨hblocks.mpr hb, ho, hc, hfields.mpr hs⟩

theorem decodes_of_foldlM (hk : (Assoc.keys ms).Nodup)
    (hblocks : (ms.lookup "blocks").isSome = true)
    (hoperators : (ms.lookup "operators").isSome = true)
    (h : ms.foldlM (fun q m => takeMember q m.1 m.2) {} = .ok q) : q.Decodes ms where
  blocks := Json.required_iff.mpr ⟨hblocks, reads_blocks.member hk h⟩
  operators := Json.required_iff.mpr ⟨hoperators, reads_operators.member hk h⟩
  caseInsensitive := reads_caseInsensitive.member hk h
  searchFields := reads_searchFields.member hk h

theorem foldlM_of_decodes (hk : (Assoc.keys ms).Nodup) (h : q.Decodes ms) :
    (ms.lookup "blocks").isSome = true ∧ (ms.lookup "operators").isSome = true ∧
      ms.foldlM (fun q m => takeMember q m.1 m.2) {} = .ok q := by
  obtain ⟨hblocks, hoperators, hcase, hfields⟩ := h
  obtain ⟨hsomeBlocks, hblocks⟩ := Json.required_iff.mp hblocks
  obtain ⟨hsomeOperators, hoperators⟩ := Json.required_iff.mp hoperators
  have hknown : ∀ k ∈ ["blocks", "operators", "caseInsensitive", "searchFields"], ∀ v,
      ms.lookup k = some v → ∀ a, ∃ a', takeMember a k v = .ok a' := by
    intro k hk v hv a
    simp only [List.mem_cons, List.not_mem_nil, or_false] at hk
    rcases hk with rfl | rfl | rfl | rfl
    · exact reads_blocks.exists_take hblocks hv a
    · exact reads_operators.exists_take hoperators hv a
    · exact reads_caseInsensitive.exists_take hcase hv a
    · exact reads_searchFields.exists_take hfields hv a
  have hother : ∀ k ∉ ["blocks", "operators", "caseInsensitive", "searchFields"], ∀ v a,
      ∃ a', takeMember a k v = .ok a' := by
    intro k hk v a
    simp only [List.mem_cons, List.not_mem_nil, or_false, not_or] at hk
    exact ⟨a, by simp [takeMember, hk]⟩
  obtain ⟨q', hq'⟩ := Json.exists_foldlM_of_known _ hk hknown hother {}
  have hsame : q' = q := by
    have hb : q'.blocks = q.blocks := (reads_blocks.member hk hq').unique hblocks
    have ho : q'.operators = q.operators := (reads_operators.member hk hq').unique hoperators
    have hc : q'.caseInsensitive = q.caseInsensitive :=
      (reads_caseInsensitive.member hk hq').unique hcase
    have hs : q'.searchFields = q.searchFields :=
      (reads_searchFields.member hk hq').unique hfields
    cases q'
    simp only at hb ho hc hs
    subst hb ho hc hs
    rfl
  exact ⟨hsomeBlocks, hsomeOperators, hsame ▸ hq'⟩

/-- Nothing is missing when there are blocks and operators. -/
theorem missing_eq_nil_iff :
    (requiredKeys.filter fun k => (ms.lookup k).isNone) = [] ↔
      (ms.lookup "blocks").isSome = true ∧ (ms.lookup "operators").isSome = true := by
  simp [requiredKeys, List.filter_eq_nil_iff, Option.isSome_iff_ne_none]

/-- **The query of a document** is the one that it says. -/
theorem ofDocument_eq_ok_iff {v : Json} (hv : v.Keyed) : ofDocument v = .ok q ↔ q.IsOf v := by
  constructor
  · intro h
    cases v with
    | obj ms =>
      unfold ofDocument at h
      dsimp only at h
      split at h
      · rename_i hmissing
        obtain ⟨hblocks, hoperators⟩ := missing_eq_nil_iff.mp hmissing
        split at h
        · rename_i hq
          cases h
          exact ⟨ms, rfl, (decodes_iff hv).mp (decodes_of_foldlM hv.nodup hblocks hoperators hq)⟩
        · cases h
      · cases h
    | _ => cases h
  · rintro ⟨ms, rfl, h⟩
    obtain ⟨hblocks, hoperators, hfold⟩ :=
      foldlM_of_decodes hv.nodup ((decodes_iff hv).mpr h)
    have hmembers : Query.ofJson (.obj ms) = .ok q := hfold
    unfold ofDocument
    dsimp only
    rw [missing_eq_nil_iff.mpr ⟨hblocks, hoperators⟩, hmembers]

end Query

/-! ## Loading -/

namespace Query

/-- What is made of a document that comes from a source: the query that the document says; a
document that is no query is refused with the name of its source. -/
structure LoadsAs (v : Json) (source : String) (r : Except LoadError Query) : Prop where
  loaded_iff : (∃ q, r = .ok q) ↔ v.IsQuery
  eq_ok_iff : ∀ q, r = .ok q ↔ q.IsOf v
  refused : ¬ v.IsQuery → ∃ p, r = .error (.invalid source p)

theorem loadsAs_ofDocument {v : Json} (hv : v.Keyed) (source : String) :
    LoadsAs v source ((ofDocument v).mapError (.invalid source)) := by
  have heq : ∀ q, (ofDocument v).mapError (LoadError.invalid source) = .ok q ↔ q.IsOf v := by
    intro q
    rw [← ofDocument_eq_ok_iff hv]
    refine ⟨Except.mapError_eq_ok, fun h => ?_⟩
    rw [h]
    rfl
  refine ⟨?_, heq, fun hno => ?_⟩
  · rw [Json.isQuery_iff]
    exact exists_congr heq
  · cases h : ofDocument v with
    | ok q => exact absurd (Json.isQuery_iff.mpr ⟨q, (ofDocument_eq_ok_iff hv).mp h⟩) hno
    | error p => exact ⟨p, rfl⟩

/-- **What is loaded and what is refused.** A text or a sequence of bytes that is a document is
loaded exactly if the document is a query, and as the query that it says; otherwise it is refused
with the name of its source, and so is what is no document. -/
theorem load_owes (source : String) :
    (∀ text v, Json.parse text = .ok v → LoadsAs v source (load text source)) ∧
    (∀ text f, Json.parse text = .error f →
      load text source = .error (.invalid source (.flaw f))) ∧
    (∀ bytes v, Json.parseBytes bytes = .ok v → LoadsAs v source (loadBytes bytes source)) ∧
    (∀ bytes f, Json.parseBytes bytes = .error (.flaw f) →
      loadBytes bytes source = .error (.invalid source (.flaw f))) := by
  refine ⟨fun text v h => ?_, fun text f h => ?_, fun bytes v h => ?_, fun bytes f h => ?_⟩
  · have hload : load text source = (ofDocument v).mapError (.invalid source) := by
      rw [load, ofText, h]
    rw [hload]
    exact loadsAs_ofDocument (Json.keyed_parse h) source
  · rw [load, ofText, h]
    rfl
  · have hload : loadBytes bytes source = (ofDocument v).mapError (.invalid source) := by
      rw [loadBytes, h]
    rw [hload]
    exact loadsAs_ofDocument (Json.keyed_parseBytes h) source
  · rw [loadBytes, h]

/-- Two blocks without an operator; the second block has a name only, and there are members that
no query knows. -/
def terseDocument : Json :=
  .obj [("note", .null), ("operators", .arr []),
    ("blocks", .arr [.obj [("color", .str "red"), ("terms", .arr [.str "x"]), ("name", .str "a")],
      .obj [("name", .str "b")]]),
    ("searchFields", .obj [("abstract", .bool false), ("venue", .bool true)])]

/-- What `terseDocument` says. -/
def terseQuery : Query :=
  { blocks := [{ name := "a", terms := ["x"] }, { name := "b" }]
    searchFields := { abstract := false } }

theorem terseDocument_plain : Json.Plain terseDocument := by
  have hblock : Json.Plain
      (.obj [("color", .str "red"), ("terms", .arr [.str "x"]), ("name", .str "a")]) := by
    refine .obj (by decide) ?_
    simp only [List.forall_mem_cons, List.not_mem_nil, false_imp_iff, implies_true, and_true]
    exact ⟨.str _, .arr (List.forall_mem_singleton.mpr (.str _)), .str _⟩
  have hfields : Json.Plain (.obj [("abstract", .bool false), ("venue", .bool true)]) := by
    refine .obj (by decide) ?_
    simp only [List.forall_mem_cons, List.not_mem_nil, false_imp_iff, implies_true, and_true]
    exact ⟨.bool _, .bool _⟩
  refine .obj (by decide) ?_
  simp only [List.forall_mem_cons, List.not_mem_nil, false_imp_iff, implies_true, and_true]
  refine ⟨.null, .arr fun _ h => absurd h List.not_mem_nil, .arr ?_, hfields⟩
  simp only [List.forall_mem_cons, List.not_mem_nil, false_imp_iff, implies_true, and_true]
  exact ⟨hblock, .obj (by decide) (List.forall_mem_singleton.mpr (.str _))⟩

/-- The text of the document is loaded, and so are its bytes; without the blocks' array, and cut
off, it is refused. -/
theorem terseDocument_loaded :
    load terseDocument.print "terse.json" = .ok terseQuery ∧
    loadBytes terseDocument.print.toUTF8 "terse.json" = .ok terseQuery ∧
    (∃ p, load (Json.obj [("blocks", .null), ("operators", .arr [])]).print "bare.json" =
      .error (.invalid "bare.json" p)) ∧
    load "[" "cut.json" = .error (.invalid "cut.json" (.flaw .truncated)) ∧
    loadBytes "[".toUTF8 "cut.json" = .error (.invalid "cut.json" (.flaw .truncated)) := by
  have hparse := Json.parse_print terseDocument_plain
  have hbytes : Json.parseBytes terseDocument.print.toUTF8 = .ok terseDocument := by
    rw [Json.parseBytes_toUTF8, hparse]
    rfl
  have hsays : terseQuery.IsOf terseDocument := by
    refine ⟨_, rfl, ?_, rfl, rfl, ?_⟩
    · refine ⟨_, rfl, .cons ⟨_, rfl, rfl, rfl, rfl, rfl, rfl⟩
        (.cons ⟨_, rfl, rfl, rfl, rfl, rfl, rfl⟩ .nil)⟩
    · exact ⟨_, rfl, fun f => by cases f <;> rfl⟩
  have hplain : Json.Plain (.obj [("blocks", .null), ("operators", .arr [])]) := by
    refine .obj (by decide) ?_
    simp only [List.forall_mem_cons, List.not_mem_nil, false_imp_iff, implies_true, and_true]
    exact ⟨.null, .arr fun _ h => absurd h List.not_mem_nil⟩
  have hbare : ¬ Json.IsQuery (.obj [("blocks", .null), ("operators", .arr [])]) := by
    rintro ⟨ms, hms, hblocks, -⟩
    cases hms
    obtain ⟨vs, hvs, -⟩ := hblocks
    cases hvs
  have hcut : Json.parse "[" = .error .truncated := rfl
  obtain ⟨htext, -, hread, -⟩ := load_owes "terse.json"
  obtain ⟨hrefused, -, -, -⟩ := load_owes "bare.json"
  obtain ⟨-, hflaw, -, hflawBytes⟩ := load_owes "cut.json"
  refine ⟨((htext _ _ hparse).eq_ok_iff _).mpr hsays, ((hread _ _ hbytes).eq_ok_iff _).mpr hsays,
    (hrefused _ _ (Json.parse_print hplain)).refused hbare, hflaw _ _ hcut,
    hflawBytes _ _ ?_⟩
  rw [Json.parseBytes_toUTF8, hcut]
  rfl

end Query

end CiteSieve
