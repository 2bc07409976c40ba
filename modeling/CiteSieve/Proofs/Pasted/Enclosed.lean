import CiteSieve.Proofs.Pasted.Operators

/-!
# Parentheses around a whole text

A text is enclosed when its first character opens a parenthesis that its last one closes. What
stands between them is balanced: every quotation is closed, and of the parentheses outside
quotations every one is closed, none before it is opened.

* `closesAtEnd_close_iff`: the check runs through the text once, and decides just this.
* `behind_of_opened`: while the parenthesis is open, a reader is not outside.
* `isEnclosed_iff_balanced`: what is enclosed, and that neither word splits it.
-/

namespace CiteSieve.Pasted

/-! ## Quotations -/

/-- The quotation that is open behind one more character: a straight quote opens one, and only the
same character closes it. -/
def quotation (q : Option Char) (c : Char) : Option Char :=
  match q with
  | some q => if c = q then none else some q
  | none => if isStraightQuote c then some c else none

/-- The quotation that is open behind a text. -/
def quotationBehind (q : Option Char) (cs : List Char) : Option Char :=
  cs.foldl quotation q

/-- The characters that do not stand in a quotation. -/
def unquoted : Option Char → List Char → List Char
  | _, [] => []
  | none, c :: cs => c :: unquoted (quotation none c) cs
  | some q, c :: cs => unquoted (quotation (some q) c) cs

theorem unquoted_cons (q : Option Char) (c : Char) (cs : List Char) :
    unquoted q (c :: cs) = unquoted q [c] ++ unquoted (quotation q c) cs := by
  cases q <;> rfl

/-! ## Balanced texts -/

/-- No parenthesis is closed that is not open, if `d` are open before the text. -/
def Opened (d : Nat) (q : Option Char) (cs : List Char) : Prop :=
  ∀ x, x <+: cs → (unquoted q x).count ')' ≤ d + (unquoted q x).count '('

/-- All quotations and parentheses are closed behind the text, if `d` parentheses are open before
it. -/
structure Balanced (d : Nat) (q : Option Char) (cs : List Char) : Prop where
  closed : quotationBehind q cs = none
  opened : Opened d q cs
  even : (unquoted q cs).count ')' = d + (unquoted q cs).count '('

section Step

variable {d : Nat} {q : Option Char} {c : Char} {cs : List Char}

theorem opened_cons_iff : Opened d q (c :: cs) ↔
    (unquoted q [c]).count ')' ≤ d + (unquoted q [c]).count '(' ∧
      Opened (d + (unquoted q [c]).count '(' - (unquoted q [c]).count ')') (quotation q c) cs := by
  constructor
  · intro h
    have hfirst := h [c] (List.prefix_cons_inj c |>.mpr (List.nil_prefix))
    refine ⟨hfirst, fun x hx => ?_⟩
    have hmore := h (c :: x) (List.prefix_cons_inj c |>.mpr hx)
    rw [unquoted_cons, List.count_append, List.count_append] at hmore
    omega
  · rintro ⟨hfirst, hrest⟩ x hx
    rcases List.prefix_cons_iff.mp hx with rfl | ⟨x, rfl, htail⟩
    · cases q <;> exact Nat.zero_le _
    · have hmore := hrest x htail
      rw [unquoted_cons, List.count_append, List.count_append]
      omega

theorem balanced_cons_iff : Balanced d q (c :: cs) ↔
    (unquoted q [c]).count ')' ≤ d + (unquoted q [c]).count '(' ∧
      Balanced (d + (unquoted q [c]).count '(' - (unquoted q [c]).count ')')
        (quotation q c) cs := by
  have hcount : ∀ p, (unquoted q (c :: cs)).count p =
      (unquoted q [c]).count p + (unquoted (quotation q c) cs).count p := by
    intro p
    rw [unquoted_cons, List.count_append]
  constructor
  · rintro ⟨hclosed, hopened, heven⟩
    obtain ⟨hfirst, hrest⟩ := opened_cons_iff.mp hopened
    rw [hcount, hcount] at heven
    exact ⟨hfirst, hclosed, hrest, by omega⟩
  · rintro ⟨hfirst, hclosed, hrest, heven⟩
    refine ⟨hclosed, opened_cons_iff.mpr ⟨hfirst, hrest⟩, ?_⟩
    rw [hcount, hcount]
    omega

/-! ## The check -/

/-- One more character, before the last: the check fails where the first parenthesis is closed. -/
theorem closesAtEnd_cons (hne : cs ≠ []) : closesAtEnd ((d : Int) + 1) q (c :: cs) =
    if (unquoted q [c]).count ')' ≤ d + (unquoted q [c]).count '(' then
      closesAtEnd (((d + (unquoted q [c]).count '(' - (unquoted q [c]).count ')' : Nat) : Int) + 1)
        (quotation q c) cs
    else false := by
  cases q with
  | some q => rfl
  | none =>
    by_cases hq : isStraightQuote c = true
    · have hopen : c ≠ '(' := by rintro rfl; exact absurd hq (by decide)
      have hclose : c ≠ ')' := by rintro rfl; exact absurd hq (by decide)
      simp [closesAtEnd, unquoted, quotation, hq, hopen, hclose]
    · by_cases hopen : c = '('
      · subst hopen
        simp [closesAtEnd, unquoted, quotation, hq]
      · by_cases hclose : c = ')'
        · subst hclose
          cases d with
          | zero => simp [closesAtEnd, unquoted, hq, hne]
          | succ d =>
            have hdepth : ¬ ((d : Int) + 1 + 1 = 1) := by omega
            simp [closesAtEnd, unquoted, quotation, hq, hdepth]
        · simp [closesAtEnd, unquoted, quotation, hq, hopen, hclose]

end Step

/-- **The check** finds out whether the text before the last parenthesis is balanced. -/
theorem closesAtEnd_close_iff (cs : List Char) (d : Nat) (q : Option Char) :
    closesAtEnd ((d : Int) + 1) q (cs ++ [')']) = true ↔ Balanced d q cs := by
  induction cs generalizing d q with
  | nil =>
    cases q with
    | none =>
      have hlast : closesAtEnd ((d : Int) + 1) none [')'] = ((d : Int) == 0) := by
        simp [closesAtEnd, isStraightQuote]
      rw [List.nil_append, hlast, beq_iff_eq]
      constructor
      · intro hd
        refine ⟨rfl, fun x hx => ?_, ?_⟩
        · rw [List.prefix_nil.mp hx]
          exact Nat.zero_le _
        · change 0 = d + 0
          omega
      · rintro ⟨-, -, heven⟩
        change 0 = d + 0 at heven
        omega
    | some q =>
      have hlast : closesAtEnd ((d : Int) + 1) (some q) [')'] = ((d : Int) + 1 == 0) := rfl
      rw [List.nil_append, hlast, beq_iff_eq]
      constructor
      · intro hd
        omega
      · rintro ⟨hclosed, -, -⟩
        exact absurd hclosed (by simp [quotationBehind])
  | cons c cs ih =>
    rw [List.cons_append, closesAtEnd_cons (by simp), balanced_cons_iff]
    split
    · rename_i hfirst
      rw [ih, and_iff_right hfirst]
    · rename_i hfirst
      exact iff_of_false Bool.false_ne_true fun h => hfirst h.1

theorem isEnclosed_iff (cs : List Char) :
    isEnclosed cs = true ↔ ∃ u, cs = '(' :: (u ++ [')']) ∧ Balanced 0 none u := by
  have hopen : ∀ u, closesAtEnd 0 none ('(' :: u) = closesAtEnd ((0 : Nat) + 1) none u :=
    fun _ => rfl
  unfold isEnclosed
  simp only [Bool.and_eq_true, beq_iff_eq]
  constructor
  · rintro ⟨⟨hhead, hlast⟩, hcloses⟩
    obtain ⟨v, rfl⟩ := List.getLast?_eq_some_iff.mp hlast
    cases v with
    | nil => exact absurd (Option.some.inj hhead) (by decide)
    | cons c u =>
      obtain rfl := Option.some.inj hhead
      rw [List.cons_append, hopen, closesAtEnd_close_iff] at hcloses
      exact ⟨u, rfl, hcloses⟩
  · rintro ⟨u, rfl, hbalanced⟩
    refine ⟨⟨rfl, ?_⟩, ?_⟩
    · rw [← List.cons_append, List.getLast?_concat]
    · rwa [hopen, closesAtEnd_close_iff]

/-! ## Enclosed texts are not split -/

/-- In a parenthesis a nesting follows the quotations and counts the parentheses outside them. -/
theorem nesting_next {d : Nat} {q : Option Char} {c : Char}
    (h : (unquoted q [c]).count ')' ≤ d + (unquoted q [c]).count '(') :
    Nesting.next ⟨d + 1, q⟩ c =
      ⟨d + (unquoted q [c]).count '(' - (unquoted q [c]).count ')' + 1, quotation q c⟩ := by
  cases q with
  | some q => by_cases hq : c = q <;> simp [Nesting.next, unquoted, quotation, hq]
  | none =>
    by_cases hq : isStraightQuote c = true
    · have hopen : c ≠ '(' := by rintro rfl; exact absurd hq (by decide)
      have hclose : c ≠ ')' := by rintro rfl; exact absurd hq (by decide)
      simp [Nesting.next, unquoted, quotation, hq, hopen, hclose]
    · by_cases hopen : c = '('
      · subst hopen
        simp [Nesting.next, unquoted, quotation, hq]
      · by_cases hclose : c = ')'
        · subst hclose
          simp only [unquoted, List.count_singleton_self] at h
          have hd : d - 1 + 1 = d := Nat.sub_add_cancel (by simpa using h)
          simp [Nesting.next, unquoted, quotation, hq, hd]
        · simp [Nesting.next, unquoted, quotation, hq, hopen, hclose]

/-- While the parenthesis is open that stands before a text, a reader is within it. -/
theorem behind_of_opened {cs : List Char} (hb : '\\' ∉ cs) {d : Nat} {q : Option Char}
    (h : Opened d q cs) :
    ∃ e, (⟨⟨d + 1, q⟩, false⟩ : Reading).behind cs =
      ⟨⟨e + 1, quotationBehind q cs⟩, false⟩ := by
  induction cs generalizing d q with
  | nil => exact ⟨d, rfl⟩
  | cons c cs ih =>
    obtain ⟨hc, hcs⟩ := not_or.mp (List.mem_cons.not.mp hb)
    obtain ⟨hfirst, hrest⟩ := opened_cons_iff.mp h
    have hnext : (⟨⟨d + 1, q⟩, false⟩ : Reading).next c = ⟨Nesting.next ⟨d + 1, q⟩ c, false⟩ := by
      simp [Reading.next, Ne.symm hc]
    rw [Reading.behind_cons, hnext, nesting_next hfirst]
    exact ih hcs hrest

/-- No operator begins within parentheses, whatever stands around them. -/
theorem silent_parenthesized {word u : List Char} (hw : word = "AND".toList ∨ word = "OR".toList)
    (hb : '\\' ∉ u) (h : Opened 0 none u) (last : Option Char) (rest : List Char) :
    Silent word {} last ('(' :: (u ++ [')'])) rest := by
  intro before op after hlt heq hop
  cases before with
  | nil =>
    cases op with
    | nil => exact ne_nil_of_upperChars hw hop.letters rfl
    | cons c op =>
      obtain rfl := (List.cons.inj heq).1
      exact (ne_of_mem_operator hw hop.letters List.mem_cons_self).2 (.inr rfl)
  | cons c x =>
    obtain ⟨rfl, htail⟩ := List.cons.inj heq
    have hx : x <+: u := by
      have hpre : x <+: u ++ ([')'] ++ rest) := ⟨op ++ after, htail.trans (List.append_assoc ..)⟩
      refine List.prefix_of_prefix_length_le hpre (List.prefix_append u _) ?_
      simp only [List.length_cons, List.length_append, List.length_nil] at hlt
      omega
    obtain ⟨e, he⟩ := behind_of_opened (fun hmem => hb (hx.subset hmem))
      fun y hy => h y (hy.trans hx)
    have houtside := hop.outside
    rw [Reading.behind_cons, show Reading.next {} '(' = ⟨⟨0 + 1, none⟩, false⟩ from rfl, he]
      at houtside
    exact absurd (congrArg (·.nesting.depth) houtside) (Nat.succ_ne_zero e)

theorem silent_of_opened {word u : List Char} (hw : word = "AND".toList ∨ word = "OR".toList)
    (hb : '\\' ∉ u) (h : Opened 0 none u) : Silent word {} none ('(' :: (u ++ [')'])) [] :=
  silent_parenthesized hw hb h none []

/-- **What is enclosed.** A text is enclosed when it stands in parentheses and what is between them
closes every quotation and every parenthesis that it opens outside quotations, and no other. Without
a backslash such a text is not split at either word. -/
theorem isEnclosed_iff_balanced (cs : List Char) :
    (isEnclosed cs = true ↔ ∃ u, cs = '(' :: (u ++ [')']) ∧
      quotationBehind none u = none ∧
      (∀ x, x <+: u → (unquoted none x).count ')' ≤ (unquoted none x).count '(') ∧
      (unquoted none u).count '(' = (unquoted none u).count ')') ∧
    ('\\' ∉ cs → isEnclosed cs = true →
      splitTopLevel cs "AND".toList = [cs] ∧ splitTopLevel cs "OR".toList = [cs]) := by
  refine ⟨?grammar, fun hb h => ?unsplit⟩
  case grammar =>
    rw [isEnclosed_iff]
    refine exists_congr fun u => and_congr_right fun _ => ⟨?_, ?_⟩
    · rintro ⟨hclosed, hopened, heven⟩
      rw [Nat.zero_add] at heven
      exact ⟨hclosed, fun x hx => (hopened x hx).trans_eq (Nat.zero_add _), heven.symm⟩
    · rintro ⟨hclosed, hopened, heven⟩
      refine ⟨hclosed, fun x hx => (hopened x hx).trans_eq (Nat.zero_add _).symm, ?_⟩
      rw [Nat.zero_add]
      exact heven.symm
  case unsplit =>
    obtain ⟨u, rfl, hbalanced⟩ := (isEnclosed_iff cs).mp h
    have hu : '\\' ∉ u := fun hmem => hb (by simp [hmem])
    have htrim : Text.IsTrimmed ('(' :: (u ++ [')'])) := by
      constructor
      · rintro c hc
        obtain rfl := Option.some.inj hc
        decide
      · rintro c hc
        rw [← List.cons_append, List.getLast?_concat] at hc
        obtain rfl := Option.some.inj hc
        decide
    have hword : ∀ word, word = "AND".toList ∨ word = "OR".toList →
        splitTopLevel ('(' :: (u ++ [')'])) word = ['(' :: (u ++ [')'])] := by
      intro word hw
      have hsilent := silent_of_opened hw hu hbalanced.opened
      exact splitTopLevel_of_silent hw hsilent (List.cons_ne_nil _ _) htrim
    exact ⟨hword _ (.inl rfl), hword _ (.inr rfl)⟩

/-- Parentheses and operators in quotations, and an apostrophe that a quotation holds. -/
def guardedText : List Char :=
  "((a OR ')' AND b) AND \"it's (\")".toList

theorem isEnclosed_guardedText :
    '\\' ∉ guardedText ∧ isEnclosed guardedText = true ∧
      splitTopLevel guardedText "AND".toList = [guardedText] ∧
      splitTopLevel guardedText "OR".toList = [guardedText] := by
  have hb : '\\' ∉ guardedText := by decide
  have h : isEnclosed guardedText = true := by decide
  obtain ⟨-, hunsplit⟩ := isEnclosed_iff_balanced guardedText
  obtain ⟨hand, hor⟩ := hunsplit hb h
  exact ⟨hb, h, hand, hor⟩

end CiteSieve.Pasted
