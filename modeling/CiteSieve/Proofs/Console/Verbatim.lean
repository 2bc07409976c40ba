import CiteSieve.Proofs.Console.Reading

/-!
# Texts that are shown as they are

A tag is taken out, or loses backslashes, and nothing that comes later makes up for it. So a text
that is shown as it is holds no tags, whatever stands before them.

* `shown_of_isPlain`: a text without brackets and backslashes is shown as it is.
* `tag?_eq_none_of_shown`: no bracket of such a text begins a tag.
-/

namespace CiteSieve.Console

section Reads

variable {stack : List String} {position n k : Nat} {c : Char} {cs text rest shown : List Char}

/-- A character is shown as it is if it can be seen. -/
theorem reads_char_self (hc : c ≠ '\\') (hbracket : c ≠ '[') :
    Reads stack position n (c :: cs) (slashes n ++ c :: shown) ↔
      isHidden c = false ∧ Reads stack (position + 1) 0 cs shown := by
  constructor
  · intro h
    have hvisible := visible_of_reads h c (List.mem_append_right _ List.mem_cons_self)
    obtain ⟨after, hafter, heq⟩ := (reads_char hc hbracket).mp h
    rw [visible_singleton hvisible, List.append_assoc, List.singleton_append] at heq
    obtain ⟨-, -, rfl⟩ := (slashes_inj hc hc).mp heq
    exact ⟨hvisible, hafter⟩
  · rintro ⟨hvisible, h⟩
    refine (reads_char hc hbracket).mpr ⟨shown, h, ?_⟩
    rw [visible_singleton hvisible, List.append_assoc, List.singleton_append]

/-- A bracket that begins no tag is shown behind one backslash less. -/
theorem reads_bracket_self (htag : tag? ('[' :: cs) = none) :
    Reads stack position n ('[' :: cs) (slashes k ++ '[' :: shown) ↔
      k = n - 1 ∧ Reads stack (position + 1) 0 cs shown := by
  rw [reads_bracket htag]
  constructor
  · rintro ⟨after, hafter, heq⟩
    obtain ⟨hk, -, rfl⟩ := (slashes_inj (by decide) (by decide)).mp heq
    exact ⟨hk, hafter⟩
  · rintro ⟨rfl, h⟩
    exact ⟨shown, h, rfl⟩

/-- A tag is shown in another way than it is written: it is taken out, or loses backslashes. -/
theorem not_reads_tag (htag : tag? ('[' :: cs) = some (text, rest))
    (hweight : weight cs ≤ weight shown) :
    ¬ Reads stack position n ('[' :: cs) (slashes n ++ '[' :: shown) := by
  intro h
  by_cases hodd : n % 2 = 1
  · obtain ⟨after, -, heq⟩ := (reads_plainTag htag hodd).mp h
    have hvisible : visible ('[' :: text ++ [']']) = '[' :: visible (text ++ [']']) :=
      List.filter_cons_of_pos (by decide)
    rw [hvisible, List.cons_append] at heq
    have hn := ((slashes_inj (by decide) (by decide)).mp heq).1
    omega
  · obtain ⟨stack', after, hafter, heq⟩ := reads_tag htag hodd h
    have hrest := weight_le_of_reads hafter
    have hlost := weight_of_tag? htag
    have hshown := congrArg weight heq
    rw [weight_append, weight_append, weight_slashes, weight_slashes,
      weight_cons (by decide)] at hshown
    rw [weight_cons (by decide), List.cons_append, weight_cons (by decide)] at hlost
    omega

theorem tag?_eq_none_of_reads (h : Reads stack position n cs (slashes n ++ cs)) :
    ∀ t, '[' :: t <:+ cs → tag? ('[' :: t) = none := by
  induction cs generalizing stack position n with
  | nil => exact fun t ht => absurd (List.suffix_nil.mp ht) (List.cons_ne_nil _ _)
  | cons c cs ih =>
    intro t ht
    by_cases hslash : c = '\\'
    · subst hslash
      rw [slashes_cons] at h
      rcases List.suffix_cons_iff.mp ht with heq | ht
      · exact absurd (List.cons.inj heq).1 (by decide)
      · exact ih (reads_slash.mp h) t ht
    by_cases hbracket : c = '['
    · subst hbracket
      cases htag : tag? ('[' :: cs) with
      | none =>
        rcases List.suffix_cons_iff.mp ht with heq | ht
        · exact heq ▸ htag
        · exact ih (n := 0) ((reads_bracket_self htag).mp h).2 t ht
      | some tag => exact absurd h (not_reads_tag htag (Nat.le_refl _))
    · rcases List.suffix_cons_iff.mp ht with heq | ht
      · exact absurd (List.cons.inj heq).1.symm hbracket
      · exact ih (n := 0) ((reads_char_self hslash hbracket).mp h).2 t ht

/-- A character that is no part of a tag, and can be seen. -/
def IsPlain (c : Char) : Prop :=
  c ≠ '[' ∧ c ≠ '\\' ∧ isHidden c = false

instance (c : Char) : Decidable (IsPlain c) :=
  inferInstanceAs (Decidable (_ ∧ _))

theorem reads_self_of_isPlain (h : ∀ c ∈ cs, IsPlain c) : Reads stack position 0 cs cs := by
  induction cs generalizing position with
  | nil => exact reads_nil.mpr rfl
  | cons c cs ih =>
    obtain ⟨⟨hbracket, hslash, hvisible⟩, hcs⟩ := List.forall_mem_cons.mp h
    exact (reads_char_self (n := 0) hslash hbracket).mpr ⟨hvisible, ih hcs⟩

end Reads

/-- A plain text is shown as it is. -/
theorem shown_of_isPlain {s : String} (h : ∀ c ∈ s.toList, IsPlain c) : shown s = .ok s :=
  shown_eq_ok_iff.mpr (reads_self_of_isPlain h)

/-- **A text that is shown as it is holds no tags.** -/
theorem tag?_eq_none_of_shown {s : String} (h : shown s = .ok s) :
    ∀ t, '[' :: t <:+ s.toList → tag? ('[' :: t) = none :=
  tag?_eq_none_of_reads (n := 0) (shown_eq_ok_iff.mp h)

end CiteSieve.Console
