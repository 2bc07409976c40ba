import CiteSieve.Json.Decode
import CiteSieve.Proofs.Json.Keyed

/-!
# Records from documents

An object is made a record by taking in its members one after the other. Each part of the record is
decided about by the member of one key (`Json.Reads`), so that the order of the members does not
matter: the part is what is decoded from that member, or what it was at the start
(`Json.Reads.member`).

* `Json.Member`: what the value under a key satisfies, and what holds if there is none.
* `Json.exists_foldlM_of_known`: when every member can be taken in.
* `Json.toList_eq_ok_iff`: an array is decoded element by element.
-/

namespace CiteSieve

/-! ## Members -/

namespace Json

variable {α β : Type}

/-- The value under the key satisfies `here`; `absent` holds if there is none. -/
def Member (ms : List (String × Json)) (key : String) (here : Json → Prop) (absent : Prop) :
    Prop :=
  match ms.lookup key with
  | some v => here v
  | none => absent

variable {ms : List (String × Json)} {key : String}

theorem Member.congr {p q : Json → Prop} {a b : Prop}
    (hv : ∀ v, ms.lookup key = some v → (p v ↔ q v)) (hab : a ↔ b) :
    Member ms key p a ↔ Member ms key q b := by
  unfold Member
  cases h : ms.lookup key with
  | none => exact hab
  | some v => exact hv v h

/-- A member of some kind, or none, is the member that stands for some value, or its default. -/
theorem member_exists_iff {R : Json → β → Prop} (d : β) :
    Member ms key (fun v => ∃ y, R v y) True ↔ ∃ y, Member ms key (R · y) (y = d) := by
  unfold Member
  cases ms.lookup key with
  | none => exact iff_of_true trivial ⟨d, rfl⟩
  | some v => exact Iff.rfl

theorem required_exists_iff {R : Json → β → Prop} :
    Member ms key (fun v => ∃ y, R v y) False ↔ ∃ y, Member ms key (R · y) False := by
  unfold Member
  cases ms.lookup key with
  | none => simp
  | some v => exact Iff.rfl

/-- A member that must be there is of some kind, and may be read as one that need not. -/
theorem required_iff {p : Json → Prop} {a : Prop} :
    Member ms key p False ↔ (ms.lookup key).isSome = true ∧ Member ms key p a := by
  unfold Member
  cases ms.lookup key with
  | none => simp
  | some v => simp

/-! ## Objects as records -/

/-- Taking in the member `key` decides about one part of a record, which is what `decode` makes of
its value; no other member does. -/
structure Reads (take : α → String → Json → Except Mismatch α) (key : String)
    (decode : Json → Except Mismatch β) (part : α → β) : Prop where
  here : ∀ {a a' : α} {v : Json}, take a key v = .ok a' → decode v = .ok (part a')
  other : ∀ {a a' : α} {k : String} {v : Json}, k ≠ key → take a k v = .ok a' → part a' = part a
  takes : ∀ {v : Json} {y : β} (a : α), decode v = .ok y → ∃ a', take a key v = .ok a'

/-- **What a part of a record is made of:** the member that decides about it, if there is one. -/
theorem Reads.member {take : α → String → Json → Except Mismatch α}
    {decode : Json → Except Mismatch β} {part : α → β} (hr : Reads take key decode part) :
    ∀ {ms : List (String × Json)} {a a' : α}, (Assoc.keys ms).Nodup →
      ms.foldlM (fun a m => take a m.1 m.2) a = .ok a' →
        Member ms key (fun v => decode v = .ok (part a')) (part a' = part a)
  | [], a, a', _, h => by
    cases h
    exact rfl
  | (k, v) :: ms, a, a', hk, h => by
    rw [List.foldlM_cons] at h
    obtain ⟨a₁, h₁, h⟩ := Except.bind_eq_ok h
    obtain ⟨hnew, hk⟩ := List.nodup_cons.mp hk
    have ih := hr.member hk h
    unfold Member at ih ⊢
    rw [Assoc.lookup_cons]
    by_cases he : key = k
    · -- The other members have other keys, so the part stays as this one sets it.
      subst he
      have hnone : ms.lookup key = none := by
        rw [← Option.not_isSome_iff_eq_none, Assoc.isSome_lookup_iff]
        exact hnew
      rw [hnone] at ih
      dsimp only at ih
      rw [if_pos rfl, ih]
      exact hr.here h₁
    · rwa [if_neg he, ← hr.other (Ne.symm he) h₁]

/-- A member, or its default, can be decoded in one way. -/
theorem Member.unique {decode : Json → Except Mismatch β} {x y d : β}
    (hx : Member ms key (fun v => decode v = .ok x) (x = d))
    (hy : Member ms key (fun v => decode v = .ok y) (y = d)) : x = y := by
  unfold Member at hx hy
  cases h : ms.lookup key with
  | none =>
    rw [h] at hx hy
    exact hx.trans hy.symm
  | some v =>
    rw [h] at hx hy
    exact Except.ok.inj (hx.symm.trans hy)

/-- Where its member can be decoded, the member is taken in. -/
theorem Reads.exists_take {take : α → String → Json → Except Mismatch α}
    {decode : Json → Except Mismatch β} {part : α → β} (hr : Reads take key decode part)
    {y : β} {absent : Prop} (hm : Member ms key (fun v => decode v = .ok y) absent) {v : Json}
    (hv : ms.lookup key = some v) (a : α) : ∃ a', take a key v = .ok a' := by
  unfold Member at hm
  rw [hv] at hm
  exact hr.takes a hm

theorem exists_foldlM {take : α → String → Json → Except Mismatch α} :
    ∀ {ms : List (String × Json)} (a : α), (∀ m ∈ ms, ∀ a, ∃ a', take a m.1 m.2 = .ok a') →
      ∃ a', ms.foldlM (fun a m => take a m.1 m.2) a = .ok a'
  | [], a, _ => ⟨a, rfl⟩
  | m :: ms, a, h => by
    obtain ⟨a₁, h₁⟩ := h m List.mem_cons_self a
    obtain ⟨a', h'⟩ := exists_foldlM a₁ fun m hm => h m (List.mem_cons_of_mem _ hm)
    exact ⟨a', by rw [List.foldlM_cons, h₁]; exact h'⟩

/-- **An object is a record** if its members of known keys can be taken in; those of other keys
always can. -/
theorem exists_foldlM_of_known {take : α → String → Json → Except Mismatch α}
    (known : List String) (hk : (Assoc.keys ms).Nodup)
    (hknown : ∀ k ∈ known, ∀ v, ms.lookup k = some v → ∀ a, ∃ a', take a k v = .ok a')
    (hother : ∀ k ∉ known, ∀ v a, ∃ a', take a k v = .ok a') (a : α) :
    ∃ a', ms.foldlM (fun a m => take a m.1 m.2) a = .ok a' := by
  refine exists_foldlM a fun m hm b => ?_
  by_cases h : m.1 ∈ known
  · exact hknown m.1 h m.2 (Assoc.lookup_of_mem hk hm) b
  · exact hother m.1 h m.2 b

/-! ## Kinds of values -/

theorem toText_eq_ok_iff {v : Json} {s : String} : v.toText = .ok s ↔ v = .str s := by
  cases v <;> simp [toText, refuse]

theorem toBool_eq_ok_iff {v : Json} {b : Bool} : v.toBool = .ok b ↔ v = .bool b := by
  cases v <;> simp [toBool, refuse]

theorem decodeElements_eq_ok_iff {decode : Json → Except Mismatch β} :
    ∀ {index : Nat} {vs : List Json} {ys : List β}, decodeElements decode index vs = .ok ys ↔
      List.Forall₂ (fun v y => decode v = .ok y) vs ys
  | index, [], ys => by
    rw [decodeElements, List.forall₂_nil_left_iff, Except.ok.injEq, eq_comm]
  | index, v :: vs, ys => by
    rw [decodeElements, List.forall₂_cons_left_iff]
    constructor
    · intro h
      obtain ⟨y, hy, h⟩ := Except.bind_eq_ok h
      obtain ⟨more, hmore, h⟩ := Except.bind_eq_ok h
      cases h
      exact ⟨y, more, Except.mapError_eq_ok hy, decodeElements_eq_ok_iff.mp hmore, rfl⟩
    · rintro ⟨y, more, hy, hmore, rfl⟩
      rw [hy, decodeElements_eq_ok_iff.mpr hmore]
      rfl

theorem toList_eq_ok_iff {decode : Json → Except Mismatch β} {v : Json} {ys : List β} :
    toList decode v = .ok ys ↔
      ∃ vs, v = .arr vs ∧ List.Forall₂ (fun v y => decode v = .ok y) vs ys := by
  cases v <;> simp [toList, refuse, decodeElements_eq_ok_iff]

/-- An array of values that can be written in one way each can be written in one way. -/
theorem exists_arr_iff_map {encode : β → Json} {v : Json} {ys : List β} :
    (∃ vs, v = .arr vs ∧ List.Forall₂ (fun v y => v = encode y) vs ys) ↔
      v = .arr (ys.map encode) := by
  constructor
  · rintro ⟨vs, rfl, hvs⟩
    rw [← List.forall₂_map_right_iff, List.forall₂_eq_eq_eq] at hvs
    rw [hvs]
  · rintro rfl
    refine ⟨ys.map encode, rfl, ?_⟩
    rw [← List.forall₂_map_right_iff, List.forall₂_eq_eq_eq]

theorem toList_eq_ok_iff_map {decode : Json → Except Mismatch β} {encode : β → Json}
    (h : ∀ {v y}, decode v = .ok y ↔ v = encode y) {v : Json} {ys : List β} :
    toList decode v = .ok ys ↔ v = .arr (ys.map encode) := by
  simp only [toList_eq_ok_iff, h, exists_arr_iff_map]

theorem toList_toText_eq_ok_iff {v : Json} {ss : List String} :
    toList toText v = .ok ss ↔ v = .arr (ss.map .str) :=
  toList_eq_ok_iff_map toText_eq_ok_iff

/-- An array of values of which no object repeats a key. -/
theorem toList_eq_ok_iff_of_keyed {decode : Json → Except Mismatch β} {R : Json → β → Prop}
    (h : ∀ {v y}, v.Keyed → (decode v = .ok y ↔ R v y)) {v : Json} (hv : v.Keyed)
    {ys : List β} :
    toList decode v = .ok ys ↔ ∃ vs, v = .arr vs ∧ List.Forall₂ R vs ys := by
  rw [toList_eq_ok_iff]
  refine exists_congr fun vs => and_congr_right ?_
  rintro rfl
  have hpair : ∀ v y, v.Keyed ∧ decode v = .ok y ↔ v.Keyed ∧ R v y :=
    fun v y => and_congr_right h
  have hall := List.forall₂_and_left (R := fun v y => decode v = .ok y) (p := Keyed) vs ys
  simp only [hpair, List.forall₂_and_left] at hall
  exact (and_iff_right hv.of_mem).symm.trans (hall.symm.trans (and_iff_right hv.of_mem))

end Json

end CiteSieve
