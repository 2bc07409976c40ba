import Mathlib.Data.List.Chain
import CiteSieve.Proofs.Text.Trimmed
import CiteSieve.Text.Word

/-!
# Tidy texts

A text is tidy when it is not empty, begins and ends with no blank, and holds no blanks but single
spaces. Collapsing leaves such a text alone (`collapse_eq_self`), and tidy texts make a tidy one,
side by side or with a space between them (`IsTidy.append`, `IsTidy.append_space`).
-/

namespace CiteSieve.Text

/-- Not both are spaces. -/
def NotBothSpaces (a b : Char) : Prop :=
  ¬ (a = ' ' ∧ b = ' ')

instance : DecidableRel NotBothSpaces :=
  fun a b => inferInstanceAs (Decidable (¬ (a = ' ' ∧ b = ' ')))

/-- Not empty, trimmed, and with no blanks but single spaces. -/
structure IsTidy (cs : List Char) : Prop where
  ne_nil : cs ≠ []
  trimmed : IsTrimmed cs
  spaces : ∀ c ∈ cs, isBlank c = true → c = ' '
  single : cs.IsChain NotBothSpaces

instance (cs : List Char) : Decidable (IsTidy cs) :=
  decidable_of_iff
    (cs ≠ [] ∧ IsTrimmed cs ∧ (∀ c ∈ cs, isBlank c = true → c = ' ') ∧ cs.IsChain NotBothSpaces)
    ⟨fun h => ⟨h.1, h.2.1, h.2.2.1, h.2.2.2⟩, fun h => ⟨h.ne_nil, h.trimmed, h.spaces, h.single⟩⟩

/-! ## Making tidy texts -/

theorem ne_space_of_not_isBlank {c : Char} (h : isBlank c = false) : c ≠ ' ' := by
  rintro rfl
  exact absurd h (by decide)

/-- A text without blanks is tidy. -/
theorem IsTidy.of_not_isBlank {cs : List Char} (hne : cs ≠ [])
    (h : ∀ c ∈ cs, isBlank c = false) : IsTidy cs where
  ne_nil := hne
  trimmed := ⟨fun c hc => h c (List.mem_of_mem_head? hc), fun c hc => h c (List.mem_of_getLast? hc)⟩
  spaces := fun c hc hb => absurd hb (by rw [h c hc]; decide)
  single := by
    have hpairs : cs.Pairwise NotBothSpaces := List.pairwise_of_forall_mem_list fun a ha _ _ hab =>
      ne_space_of_not_isBlank (h a ha) hab.1
    exact hpairs.isChain

/-- The codes of all blanks. -/
def blankCodes : List Nat :=
  [9, 10, 11, 12, 13, 28, 29, 30, 31, 32, 0x85, 0xa0, 0x1680, 0x2000, 0x2001, 0x2002, 0x2003, 0x2004,
    0x2005, 0x2006, 0x2007, 0x2008, 0x2009, 0x200a, 0x2028, 0x2029, 0x202f, 0x205f, 0x3000]

/-- What holds of no blank, code by code. -/
theorem eq_false_of_isBlank {p : Char → Bool} (hp : ∀ n ∈ blankCodes, p (Char.ofNat n) = false)
    {c : Char} (h : isBlank c = true) : p c = false := by
  have hmem : c.toNat ∈ blankCodes := by
    simp only [isBlank, Bool.or_eq_true, Bool.and_eq_true, decide_eq_true_eq, beq_iff_eq] at h
    simp only [blankCodes, List.mem_cons, List.not_mem_nil, or_false]
    omega
  rw [← Char.ofNat_toNat c, hp _ hmem]

/-- No blank is a word character. -/
theorem isWord_of_isBlank {c : Char} (h : isBlank c = true) : isWord c = false :=
  eq_false_of_isBlank (by decide +kernel) h

theorem isBlank_of_isWord {c : Char} (h : isWord c = true) : isBlank c = false :=
  Bool.eq_false_iff.mpr fun hblank => by
    rw [isWord_of_isBlank hblank] at h
    exact nomatch h

/-- A character that no test for a mark can be about. -/
theorem ne_of_isWord {c m : Char} (hc : isWord c = true) (hm : isWord m = false) :
    c ≠ m := by
  rintro rfl
  rw [hc] at hm
  exact absurd hm (by decide)

theorem head?_append_of_ne_nil {as : List Char} (h : as ≠ []) (bs : List Char) :
    (as ++ bs).head? = as.head? := by
  cases as with
  | nil => exact absurd rfl h
  | cons a as => rfl

theorem getLast?_append_of_ne_nil (as : List Char) {bs : List Char} (h : bs ≠ []) :
    (as ++ bs).getLast? = bs.getLast? := by
  rw [List.getLast?_append, Option.or_of_isSome (List.getLast?_isSome.mpr h)]

theorem IsTrimmed.append {as bs : List Char} (ha : IsTrimmed as) (hb : IsTrimmed bs)
    (hane : as ≠ []) (hbne : bs ≠ []) (between : List Char) : IsTrimmed (as ++ (between ++ bs)) where
  head := by
    rw [head?_append_of_ne_nil hane]
    exact ha.head
  last := by
    rw [← List.append_assoc, getLast?_append_of_ne_nil _ hbne]
    exact hb.last

theorem IsTidy.append {as bs : List Char} (ha : IsTidy as) (hb : IsTidy bs) :
    IsTidy (as ++ bs) where
  ne_nil := List.append_ne_nil_of_left_ne_nil ha.ne_nil bs
  trimmed := ha.trimmed.append hb.trimmed ha.ne_nil hb.ne_nil []
  spaces := fun c hc => (List.mem_append.mp hc).elim (ha.spaces c) (hb.spaces c)
  single := ha.single.append hb.single fun a haa _ _ hab =>
    ne_space_of_not_isBlank (ha.trimmed.last a haa) hab.1

theorem IsTidy.append_space {as bs : List Char} (ha : IsTidy as) (hb : IsTidy bs) :
    IsTidy (as ++ ' ' :: bs) where
  ne_nil := List.append_ne_nil_of_left_ne_nil ha.ne_nil _
  trimmed := ha.trimmed.append hb.trimmed ha.ne_nil hb.ne_nil [' ']
  spaces := by
    intro c hc hblank
    rcases List.mem_append.mp hc with hc | hc
    · exact ha.spaces c hc hblank
    · rcases List.mem_cons.mp hc with rfl | hc
      · rfl
      · exact hb.spaces c hc hblank
  single := by
    have hbs : (' ' :: bs).IsChain NotBothSpaces := hb.single.cons fun b hbb hab =>
      ne_space_of_not_isBlank (hb.trimmed.head b hbb) hab.2
    exact ha.single.append hbs fun a haa _ _ hab =>
      ne_space_of_not_isBlank (ha.trimmed.last a haa) hab.1

/-! ## Collapsing -/

/-- Where blanks are single spaces, there is nothing to squeeze; a run that was begun before is
taken up by no space at the start. -/
theorem squeeze_eq_self : ∀ {cs : List Char} (after : Bool),
    (∀ c ∈ cs, isBlank c = true → c = ' ') → cs.IsChain NotBothSpaces →
    (after = true → ∀ c ∈ cs.head?, isBlank c = false) → squeeze after cs = cs
  | [], after, _, _, _ => by
    unfold squeeze
    rfl
  | c :: cs, after, hspaces, hsingle, hafter => by
    have hrest : ∀ d ∈ cs, isBlank d = true → d = ' ' :=
      fun d hd => hspaces d (List.mem_cons_of_mem c hd)
    unfold squeeze
    cases hc : isBlank c with
    | false =>
      rw [if_neg Bool.false_ne_true, squeeze_eq_self false hrest hsingle.tail (fun h => nomatch h)]
    | true =>
      have hspace := hspaces c List.mem_cons_self hc
      have hno : after = false := by
        cases after with
        | false => rfl
        | true => exact absurd (hafter rfl c rfl) (by rw [hc]; decide)
      have hnext : ∀ d ∈ cs.head?, isBlank d = false := by
        intro d hd
        by_contra hblank
        have hd' := hrest d (List.mem_of_mem_head? hd) (by simpa using hblank)
        exact (List.isChain_cons.mp hsingle).1 d hd ⟨hspace, hd'⟩
      rw [if_pos rfl, hno, if_neg Bool.false_ne_true,
        squeeze_eq_self true hrest hsingle.tail (fun _ => hnext), hspace]

/-- **Collapsing leaves a tidy text alone.** -/
theorem collapse_eq_self {s : String} (h : IsTidy s.toList) : collapse s = s := by
  unfold collapse
  rw [squeeze_eq_self false h.spaces h.single (fun h => nomatch h), trimChars_eq_self h.trimmed,
    String.ofList_toList]

end CiteSieve.Text
