import Mathlib.Data.List.Forall2

/-!
# Results that can fail, and lists of them

How a computation that may fail is taken apart: what was computed before the last step, and the
results of a list of computations one by one. Lists are told apart by their members, and a list
without repetitions keeps each of them once.
-/

namespace CiteSieve

theorem Except.bind_eq_ok {ε α β : Type} {x : Except ε α} {f : α → Except ε β} {b : β}
    (h : x >>= f = .ok b) : ∃ a, x = .ok a ∧ f a = .ok b := by
  cases x with
  | error e => exact absurd h (by simp [bind, Except.bind])
  | ok a => exact ⟨a, rfl, h⟩

theorem Except.map_eq_ok {ε α β : Type} {x : Except ε α} {f : α → β} {b : β}
    (h : x.map f = .ok b) : ∃ a, x = .ok a ∧ f a = b := by
  cases x with
  | error e => exact absurd h (by simp [Except.map])
  | ok a => exact ⟨a, rfl, Except.ok.inj h⟩

/-- Each member of the first list has its partner in the second. -/
theorem exists_of_mem_forall₂ {α β : Type} {R : α → β → Prop} {as : List α} {bs : List β}
    (h : List.Forall₂ R as bs) : ∀ a ∈ as, ∃ b ∈ bs, R a b := by
  induction h with
  | nil => exact fun a ha => absurd ha List.not_mem_nil
  | cons hab _ ih =>
    refine List.forall_mem_cons.mpr ⟨⟨_, List.mem_cons_self, hab⟩, fun a ha => ?_⟩
    obtain ⟨b, hb, hab'⟩ := ih a ha
    exact ⟨b, List.mem_cons_of_mem _ hb, hab'⟩

/-- Members that have a partner each are a list that has one. -/
theorem forall_mem_exists_iff {α β : Type} {R : α → β → Prop} :
    ∀ {as : List α}, (∀ a ∈ as, ∃ b, R a b) ↔ ∃ bs, List.Forall₂ R as bs
  | [] => iff_of_true (List.forall_mem_nil _) ⟨[], .nil⟩
  | a :: as => by
    rw [List.forall_mem_cons, forall_mem_exists_iff]
    constructor
    · rintro ⟨⟨b, hb⟩, bs, hbs⟩
      exact ⟨b :: bs, .cons hb hbs⟩
    · rintro ⟨_, h⟩
      obtain ⟨b, bs, hb, hbs, -⟩ := List.forall₂_cons_left_iff.mp h
      exact ⟨⟨b, hb⟩, bs, hbs⟩

/-- A list of results is there when every one is. -/
theorem forall₂_of_mapM_eq_ok {ε α β : Type} {f : α → Except ε β} :
    ∀ {as : List α} {bs : List β}, as.mapM f = .ok bs →
      List.Forall₂ (fun a b => f a = .ok b) as bs
  | [], bs, h => by
    cases h
    exact .nil
  | a :: as, bs, h => by
    rw [List.mapM_cons] at h
    obtain ⟨b, hb, h⟩ := Except.bind_eq_ok h
    obtain ⟨bs', hbs, h⟩ := Except.bind_eq_ok h
    cases h
    exact .cons hb (forall₂_of_mapM_eq_ok hbs)

theorem mapM_cons_eq_ok_iff {ε α β : Type} {f : α → Except ε β} {a : α} {as : List α} {b : β}
    {bs : List β} : (a :: as).mapM f = .ok (b :: bs) ↔ f a = .ok b ∧ as.mapM f = .ok bs := by
  rw [List.mapM_cons]
  constructor
  · intro h
    obtain ⟨b', hb, h⟩ := Except.bind_eq_ok h
    obtain ⟨bs', hbs, h⟩ := Except.bind_eq_ok h
    cases h
    exact ⟨hb, hbs⟩
  · rintro ⟨hb, hbs⟩
    rw [hb, hbs]
    rfl

/-- The members of one list are the results of another one by one. -/
theorem mapM_map_eq_ok_iff {ε α α' β : Type} {f : α → Except ε β} {g : α' → α} {h : α' → β}
    {as : List α'} : (as.map g).mapM f = .ok (as.map h) ↔ ∀ a ∈ as, f (g a) = .ok (h a) := by
  induction as with
  | nil => exact iff_of_true rfl (List.forall_mem_nil _)
  | cons a as ih =>
    rw [List.map_cons, List.map_cons, mapM_cons_eq_ok_iff, ih, List.forall_mem_cons]

/-- Results that are renamed one by one are renamed as a list. -/
theorem mapM_map_eq_map {ε α α' β β' : Type} {f : α' → Except ε β'} {f' : α → Except ε β}
    {g : α → α'} {h : β → β'} (hf : ∀ a, f (g a) = (f' a).map h) :
    ∀ as : List α, (as.map g).mapM f = (as.mapM f').map (List.map h)
  | [] => rfl
  | a :: as => by
    rw [List.map_cons, List.mapM_cons, List.mapM_cons, hf, mapM_map_eq_map hf as]
    cases f' a with
    | error e => rfl
    | ok b => cases as.mapM f' <;> rfl

/-- Where every result is there, so is their list. -/
theorem exists_mapM_eq_ok {ε α β : Type} {f : α → Except ε β} : ∀ {as : List α},
    (∀ a ∈ as, ∃ b, f a = .ok b) → ∃ bs, as.mapM f = .ok bs
  | [], _ => ⟨[], rfl⟩
  | a :: as, h => by
    obtain ⟨b, hb⟩ := h a List.mem_cons_self
    obtain ⟨bs, hbs⟩ := exists_mapM_eq_ok fun a' ha' => h a' (List.mem_cons_of_mem a ha')
    refine ⟨b :: bs, ?_⟩
    rw [List.mapM_cons, hb, hbs]
    rfl

/-- A list of results is there just when every one is. -/
theorem exists_mapM_eq_ok_iff {ε α β : Type} {f : α → Except ε β} {as : List α} :
    (∃ bs, as.mapM f = .ok bs) ↔ ∀ a ∈ as, ∃ b, f a = .ok b := by
  constructor
  · rintro ⟨bs, hbs⟩ a ha
    obtain ⟨b, -, hb⟩ := exists_of_mem_forall₂ (forall₂_of_mapM_eq_ok hbs) a ha
    exact ⟨b, hb⟩
  · exact exists_mapM_eq_ok

theorem Except.mapError_eq_ok {ε ε' α : Type} {x : Except ε α} {f : ε → ε'} {a : α}
    (h : x.mapError f = .ok a) : x = .ok a := by
  cases x with
  | error e => exact absurd h (by simp [Except.mapError])
  | ok b => rw [Except.ok.inj h]

theorem nodup_eraseDups {α : Type} [BEq α] [LawfulBEq α] : ∀ as : List α, as.eraseDups.Nodup
  | [] => by
    rw [List.eraseDups_nil]
    exact List.nodup_nil
  | a :: as => by
    rw [List.eraseDups_cons, List.nodup_cons, List.mem_eraseDups, List.mem_filter]
    exact ⟨fun h => by simp at h, nodup_eraseDups _⟩
termination_by as => as.length
decreasing_by
  rw [List.length_cons, Nat.lt_succ_iff]
  exact List.length_filter_le _ _

/-- What is added is put behind the others if it is new. -/
theorem eraseDups_concat {α : Type} [BEq α] [LawfulBEq α] (as : List α) (a : α) :
    (as ++ [a]).eraseDups = if a ∈ as.eraseDups then as.eraseDups else as.eraseDups ++ [a] := by
  simp only [List.eraseDups_append, List.mem_eraseDups]
  by_cases h : a ∈ as <;> simp [List.removeAll, List.eraseDups_cons, h]

end CiteSieve
