import CiteSieve.Bibtex.Scan
import CiteSieve.Proofs.Bibtex.Grammar

/-!
# Text that the search for a closing brace crosses

`closeChunk` looks for the brace that closes an entry. A text is crossed when the search goes
through it without ending there, from one depth to another, whatever follows. Crossing composes,
so a text is crossed piece by piece.

Results:
* `Crosses.trans`: the composition; `crosses_value`, `crosses_value_of_group`: a value that can be
  written is crossed from any depth below the outermost back to the same depth.
* `closeChunk_append`: a search through a text that never closes finds what it finds before it.
-/

namespace CiteSieve.Bibtex

/-- What is found after the text `cs`, as seen from before it. -/
def behind (cs : List Char) (found : List Char × List Char) : List Char × List Char :=
  (cs ++ found.1, found.2)

/-- The search at `depth` goes through `cs` and is at `depth'` behind it. -/
def Crosses (depth : Nat) (q : Bool) (cs : List Char) (depth' : Nat) (q' : Bool) : Prop :=
  ∀ rest, closeChunk depth q (cs ++ rest) = (closeChunk depth' q' rest).map (behind cs)

/-! ## Composition -/

theorem Crosses.refl (d : Nat) (q : Bool) : Crosses d q [] d q := by
  intro rest
  have h : behind [] = id := rfl
  rw [h, Option.map_id, List.nil_append, id]

theorem Crosses.trans {d₁ d₂ d₃ : Nat} {q₁ q₂ q₃ : Bool} {as bs : List Char}
    (ha : Crosses d₁ q₁ as d₂ q₂) (hb : Crosses d₂ q₂ bs d₃ q₃) :
    Crosses d₁ q₁ (as ++ bs) d₃ q₃ := by
  intro rest
  have h : behind as ∘ behind bs = behind (as ++ bs) := by
    funext found
    simp only [Function.comp, behind, List.append_assoc]
  rw [List.append_assoc, ha, hb, Option.map_map, h]

theorem Crosses.cons {d₁ d₂ d₃ : Nat} {q₁ q₂ q₃ : Bool} {c : Char} {cs : List Char}
    (hc : Crosses d₁ q₁ [c] d₂ q₂) (hcs : Crosses d₂ q₂ cs d₃ q₃) :
    Crosses d₁ q₁ (c :: cs) d₃ q₃ :=
  hc.trans hcs

/-- A text that is crossed and not followed by anything holds no closing brace. -/
theorem Crosses.eq_none {d d' : Nat} {q q' : Bool} {cs : List Char} (h : Crosses d q cs d' q') :
    closeChunk d q cs = none := by
  have h' := h []
  rwa [List.append_nil, show closeChunk d' q' [] = none by unfold closeChunk; rfl,
    Option.map_none] at h'

/-! ## Single characters -/

theorem crosses_escaped (d : Nat) (q : Bool) (c : Char) : Crosses d q ['\\', c] d q :=
  fun rest => closeChunk.eq_3 d q c rest

/-- What is not hidden and does not close the entry leads on to the next character. -/
theorem closeChunk_zero {c : Char} (hb : c ≠ '\\') (q : Bool) (cs : List Char)
    (h : ¬ (c = '\x7d' ∧ q = false)) :
    closeChunk 0 q (c :: cs) =
      (if c = '\x7b' then closeChunk 1 q cs
        else closeChunk 0 (if c = '"' then !q else q) cs).map (behind [c]) := by
  rw [closeChunk.eq_4 q c cs (fun e _ => hb e) (fun _ _ e _ => hb e), if_neg h]
  rfl

theorem closeChunk_close (cs : List Char) : closeChunk 0 false ('\x7d' :: cs) = some ([], cs) := by
  rw [closeChunk.eq_4 _ _ _ (fun e => absurd e (by decide)) (fun _ _ e => absurd e (by decide)),
    if_pos ⟨rfl, rfl⟩]

theorem closeChunk_succ {c : Char} (hb : c ≠ '\\') (d : Nat) (q : Bool) (cs : List Char) :
    closeChunk (d + 1) q (c :: cs) =
      (closeChunk (if c = '\x7b' then d + 2 else if c = '\x7d' then d else d + 1) q cs).map
        (behind [c]) :=
  closeChunk.eq_5 q d c cs (fun e _ => hb e) (fun _ _ e _ => hb e)

theorem crosses_open (d : Nat) (q : Bool) : Crosses d q ['\x7b'] (d + 1) q := by
  intro rest
  rw [List.singleton_append]
  cases d with
  | zero => rw [closeChunk_zero (by decide) q rest (by decide +revert), if_pos rfl]
  | succ d => rw [closeChunk_succ (by decide), if_pos rfl]

theorem crosses_close (d : Nat) (q : Bool) : Crosses (d + 1) q ['\x7d'] d q := by
  intro rest
  rw [List.singleton_append, closeChunk_succ (by decide), if_neg (by decide), if_pos rfl]

theorem ne_of_isPlain {c : Char} (hc : isPlain c = true) : c ≠ '\x7b' ∧ c ≠ '\x7d' := by
  simpa only [isPlain, Bool.and_eq_true, bne_iff_ne] using hc

theorem isPlain_of_ne {c : Char} (ho : c ≠ '\x7b') (hcl : c ≠ '\x7d') : isPlain c = true := by
  simp only [isPlain, Bool.and_eq_true, bne_iff_ne]
  exact ⟨ho, hcl⟩

/-- Below the outermost depth quotes count for nothing. -/
theorem crosses_plain (d : Nat) (q : Bool) {c : Char} (hc : isPlain c = true) (hb : c ≠ '\\') :
    Crosses (d + 1) q [c] (d + 1) q := by
  intro rest
  obtain ⟨ho, hcl⟩ := ne_of_isPlain hc
  rw [List.singleton_append, closeChunk_succ hb, if_neg ho, if_neg hcl]

theorem crosses_unquoted (d : Nat) (q : Bool) {c : Char} (hc : isPlain c = true) (hb : c ≠ '\\')
    (hq : c ≠ '"') : Crosses d q [c] d q := by
  cases d with
  | zero =>
    intro rest
    obtain ⟨ho, hcl⟩ := ne_of_isPlain hc
    rw [List.singleton_append, closeChunk_zero hb q rest (fun h => hcl h.1), if_neg ho, if_neg hq]
  | succ d => exact crosses_plain d q hc hb

/-! ## Texts -/

/-- Characters that neither nest nor quote nor hide are crossed at any depth. -/
theorem crosses_all (d : Nat) (q : Bool) : ∀ {cs : List Char},
    (∀ c ∈ cs, isPlain c = true ∧ c ≠ '\\' ∧ c ≠ '"') → Crosses d q cs d q
  | [], _ => Crosses.refl d q
  | c :: cs, h => by
    obtain ⟨hc, hb, hq⟩ := h c List.mem_cons_self
    exact (crosses_unquoted d q hc hb hq).cons
      (crosses_all d q fun c' hc' => h c' (List.mem_cons_of_mem c hc'))

/-- A key may end with a backslash, which then hides the comma after it. -/
theorem crosses_key (d : Nat) (q : Bool) : ∀ {cs : List Char}, (∀ c ∈ cs, isPlain c = true) →
    Crosses (d + 1) q (cs ++ [',']) (d + 1) q
  | [], _ => crosses_plain d q (by decide) (by decide)
  | [c], h => by
    by_cases hb : c = '\\'
    · rw [hb]
      exact crosses_escaped (d + 1) q ','
    · exact (crosses_plain d q (h c List.mem_cons_self) hb).cons
        (crosses_plain d q (by decide) (by decide))
  | c :: c' :: cs, h => by
    have htail : ∀ x ∈ c' :: cs, isPlain x = true := fun x hx => h x (List.mem_cons_of_mem c hx)
    by_cases hb : c = '\\'
    · rw [hb]
      exact (crosses_escaped (d + 1) q c').trans
        (crosses_key d q fun x hx => htail x (List.mem_cons_of_mem c' hx))
    · exact (crosses_plain d q (h c List.mem_cons_self) hb).cons (crosses_key d q htail)

theorem crosses_group (d : Nat) (q : Bool) {g : List Char} (hg : GroupText g) :
    Crosses (d + 1) q g (d + 1) q := by
  induction hg with
  | nil => exact Crosses.refl _ _
  | plain hc hb _ ih => exact (crosses_plain d q hc hb).cons ih
  | escaped _ _ ih => exact (crosses_escaped (d + 1) q _).trans ih

/-- **A value never closes the entry that holds it.** -/
theorem crosses_value (d : Nat) (q : Bool) {v : List Char} (hv : ValueText v) :
    Crosses (d + 1) q v (d + 1) q := by
  induction hv with
  | nil => exact Crosses.refl _ _
  | plain hc hb _ ih => exact (crosses_plain d q hc hb).cons ih
  | escaped _ ih => exact (crosses_escaped (d + 1) q _).trans ih
  | group hg _ ih =>
    exact (crosses_open (d + 1) q).cons
      ((crosses_group (d + 1) q hg).trans ((crosses_close (d + 1) q).cons ih))

/-! ## Searching up to a text that never closes -/

/-- Whatever state the search is in, it does not end in the text. -/
def NeverCloses (cs : List Char) : Prop :=
  ∀ d q, closeChunk d q cs = none

/-- What is found in `cs`, as it is found when `e` stands behind. -/
def before (e : List Char) (found : List Char × List Char) : List Char × List Char :=
  (found.1, found.2 ++ e)

theorem map_before_behind (e cs : List Char) (found : Option (List Char × List Char)) :
    (found.map (behind cs)).map (before e) = (found.map (before e)).map (behind cs) := by
  cases found <;> rfl

/-- A character that no pattern for backslashes takes is no backslash. -/
theorem ne_backslash {c : Char} {cs : List Char} (h₁ : c = '\\' → cs = [] → False)
    (h₂ : ∀ c' cs', c = '\\' → cs = c' :: cs' → False) : c ≠ '\\' := by
  intro hc
  cases cs with
  | nil => exact h₁ hc rfl
  | cons c' cs' => exact h₂ c' cs' hc rfl

/-- What stands behind a text changes no search that ends in the text, and none at all if it never
closes. It may lose its first character to a backslash that ends the text before it. -/
theorem closeChunk_append_of {e : List Char} {d : Nat} {q : Bool} {cs : List Char}
    (he : closeChunk d q cs = none → NeverCloses e ∧ NeverCloses e.tail) :
    closeChunk d q (cs ++ e) = (closeChunk d q cs).map (before e) := by
  fun_induction closeChunk d q cs with
  | case1 d q => exact (he rfl).1 d q
  | case2 d q =>
    cases e with
    | nil => rw [List.append_nil, closeChunk, Option.map_none]
    | cons c e =>
      have hc := crosses_escaped d q c e
      rwa [show closeChunk d q e = none from (he rfl).2 d q, Option.map_none] at hc
  | case3 d q c cs ih =>
    have hc := crosses_escaped d q c (cs ++ e)
    rw [ih fun h => he (by rw [h]; rfl), ← map_before_behind] at hc
    exact hc
  | case4 q c cs h₁ h₂ hc =>
    rw [hc.1, hc.2]
    rfl
  | case5 q c cs h₁ h₂ hc ih₁ ih₂ =>
    rw [List.cons_append, closeChunk_zero (ne_backslash h₁ h₂) q _ hc]
    by_cases ho : c = '\x7b'
    · rw [if_pos ho] at he
      rw [if_pos ho, if_pos ho, ih₁ fun h => he (by rw [h]; rfl), ← map_before_behind]
      rfl
    · rw [if_neg ho] at he
      rw [if_neg ho, if_neg ho, ih₂ fun h => he (by rw [h]; rfl), ← map_before_behind]
      rfl
  | case6 d q c cs h₁ h₂ ih =>
    rw [List.cons_append, closeChunk_succ (ne_backslash h₁ h₂), ih fun h => he (by rw [h]; rfl),
      ← map_before_behind]
    rfl

/-- **A text that never closes changes no search before it.** -/
theorem closeChunk_append {e : List Char} (he : NeverCloses e) (htail : NeverCloses e.tail)
    (d : Nat) (q : Bool) (cs : List Char) :
    closeChunk d q (cs ++ e) = (closeChunk d q cs).map (before e) :=
  closeChunk_append_of fun _ => ⟨he, htail⟩

end CiteSieve.Bibtex
