import CiteSieve.Text.Blank

/-!
# Trimmed texts

`IsTrimmed`: a text has no blank at either end. Trimming makes such a text (`isTrimmed_trimChars`)
and leaves it alone (`trimChars_eq_self`).
-/

namespace CiteSieve.Text

/-! ## Deciding -/

/-- What is said of the characters of a text is decided on these, not on all characters. -/
instance (priority := high) decidableForallChars {p : Char → Prop} [DecidablePred p]
    (cs : List Char) : Decidable (∀ c ∈ cs, p c) :=
  List.decidableBAll p cs

instance (priority := high) decidableForallChar? {p : Char → Prop} [DecidablePred p] :
    (c? : Option Char) → Decidable (∀ c ∈ c?, p c)
  | none => isTrue fun _ h => nomatch h
  | some c => decidable_of_iff (p c) ⟨fun h _ hc => Option.some.inj hc ▸ h, fun h => h c rfl⟩

/-! ## Trimmed texts -/

/-- Neither the first nor the last character is a blank. -/
structure IsTrimmed (cs : List Char) : Prop where
  head : ∀ c, cs.head? = some c → isBlank c = false
  last : ∀ c, cs.getLast? = some c → isBlank c = false

instance (cs : List Char) : Decidable (IsTrimmed cs) :=
  decidable_of_iff
    ((∀ c ∈ cs.head?, isBlank c = false) ∧ ∀ c ∈ cs.getLast?, isBlank c = false)
    ⟨fun h => ⟨h.1, h.2⟩, fun h => ⟨h.head, h.last⟩⟩

/-- What does not start with a blank has none to drop. -/
theorem dropWhile_isBlank_eq_self {cs : List Char}
    (h : ∀ c, cs.head? = some c → isBlank c = false) : cs.dropWhile isBlank = cs := by
  cases cs with
  | nil => rfl
  | cons c cs => rw [List.dropWhile_cons_of_neg (by simp [h c rfl])]

theorem trimEndChars_eq_self {cs : List Char}
    (h : ∀ c, cs.getLast? = some c → isBlank c = false) : trimEndChars cs = cs := by
  unfold trimEndChars
  rw [dropWhile_isBlank_eq_self (by simpa using h), List.reverse_reverse]

theorem trimChars_eq_self {cs : List Char} (h : IsTrimmed cs) : trimChars cs = cs := by
  unfold trimChars
  rw [dropWhile_isBlank_eq_self h.head, trimEndChars_eq_self h.last]

theorem trimEndChars_isPrefix (cs : List Char) : trimEndChars cs <+: cs := by
  have h : (cs.reverse.dropWhile isBlank).reverse <+: cs.reverse.reverse :=
    List.reverse_prefix.mpr (List.dropWhile_suffix isBlank)
  rwa [List.reverse_reverse] at h

/-- **Trimming** leaves no blank at either end. -/
theorem isTrimmed_trimChars (cs : List Char) : IsTrimmed (trimChars cs) where
  head := by
    intro c hc
    obtain ⟨tail, htail⟩ := trimEndChars_isPrefix (cs.dropWhile isBlank)
    have hhead : (cs.dropWhile isBlank).head? = some c := by
      rw [← htail, List.head?_append]
      exact Option.or_eq_some_iff.mpr (.inl hc)
    exact head?_dropWhile_blank hhead
  last := by
    intro c hc
    unfold trimChars trimEndChars at hc
    rw [List.getLast?_reverse] at hc
    exact head?_dropWhile_blank hc

/-- Where the only blanks are spaces, spaces at both ends are what trimming takes away. -/
theorem exists_eq_append_trimChars {cs : List Char} (h : ∀ c ∈ cs, isBlank c = true → c = ' ') :
    ∃ m n, cs = List.replicate m ' ' ++ (trimChars cs ++ List.replicate n ' ') := by
  have hspaces : ∀ {as : List Char}, (∀ c ∈ as, c ∈ cs) →
      as.takeWhile isBlank = List.replicate (as.takeWhile isBlank).length ' ' := by
    intro as has
    refine List.eq_replicate_of_mem fun c hc => ?_
    refine h c (has c ((List.takeWhile_sublist _).subset hc)) ?_
    exact List.all_eq_true.mp List.all_takeWhile c hc
  have hstart := hspaces fun c hc => hc
  have hend : (cs.dropWhile isBlank).reverse.takeWhile isBlank =
      List.replicate ((cs.dropWhile isBlank).reverse.takeWhile isBlank).length ' ' :=
    hspaces fun c hc => (List.dropWhile_sublist isBlank).subset (List.mem_reverse.mp hc)
  refine ⟨(cs.takeWhile isBlank).length,
    ((cs.dropWhile isBlank).reverse.takeWhile isBlank).length, ?_⟩
  rw [← hstart, ← List.reverse_replicate, ← hend]
  unfold trimChars trimEndChars
  rw [← List.reverse_append, List.takeWhile_append_dropWhile, List.reverse_reverse,
    List.takeWhile_append_dropWhile]

theorem mem_of_mem_trimChars {cs : List Char} {c : Char} (h : c ∈ trimChars cs) : c ∈ cs :=
  (List.dropWhile_sublist isBlank).subset ((trimEndChars_isPrefix _).subset h)

theorem trimChars_cons_of_isBlank {c : Char} (h : isBlank c = true) (cs : List Char) :
    trimChars (c :: cs) = trimChars cs := by
  unfold trimChars
  rw [List.dropWhile_cons_of_pos h]

theorem trimEndChars_append_of_isBlank {c : Char} (h : isBlank c = true) (cs : List Char) :
    trimEndChars (cs ++ [c]) = trimEndChars cs := by
  unfold trimEndChars
  rw [List.reverse_append, List.reverse_singleton, List.singleton_append,
    List.dropWhile_cons_of_pos h]

/-- A blank behind a trimmed text is all there is to drop. -/
theorem trimChars_append_of_isBlank {c : Char} (h : isBlank c = true) {cs : List Char}
    (hcs : IsTrimmed cs) : trimChars (cs ++ [c]) = cs := by
  cases cs with
  | nil =>
    rw [List.nil_append, trimChars_cons_of_isBlank h]
    rfl
  | cons d cs =>
    have hhead : ∀ e, (d :: cs ++ [c]).head? = some e → isBlank e = false := hcs.head
    unfold trimChars
    rw [dropWhile_isBlank_eq_self hhead, trimEndChars_append_of_isBlank h,
      trimEndChars_eq_self hcs.last]

end CiteSieve.Text
