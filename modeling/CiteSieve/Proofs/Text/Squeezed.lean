import CiteSieve.Proofs.Text.Tidy

/-!
# Squeezed texts

Squeezing goes through a text piece by piece, as long as no run of blanks is divided
(`squeeze_append_of_head`, `squeeze_append_of_last`). It leaves the ends of a trimmed text as they
are, and its only blanks are spaces.
-/

namespace CiteSieve.Text

/-! ## Piece by piece -/

theorem squeeze_nil (after : Bool) : squeeze after [] = [] := by
  unfold squeeze
  rfl

theorem squeeze_cons_of_not_isBlank {c : Char} (h : isBlank c = false) (after : Bool)
    (cs : List Char) : squeeze after (c :: cs) = c :: squeeze false cs := by
  conv => lhs; unfold squeeze
  rw [h, if_neg Bool.false_ne_true]

theorem squeeze_cons_of_isBlank {c : Char} (h : isBlank c = true) (after : Bool) (cs : List Char) :
    squeeze after (c :: cs) = (if after then [] else [' ']) ++ squeeze true cs := by
  conv => lhs; unfold squeeze
  rw [if_pos h]
  cases after <;> rfl

/-- Where no blank comes first, it does not matter whether one was before. -/
theorem squeeze_of_head {cs : List Char} (h : ∀ c ∈ cs.head?, isBlank c = false) (after : Bool) :
    squeeze after cs = squeeze false cs := by
  cases cs with
  | nil => rw [squeeze_nil, squeeze_nil]
  | cons c cs => rw [squeeze_cons_of_not_isBlank (h c rfl), squeeze_cons_of_not_isBlank (h c rfl)]

/-- No run of blanks goes on in the second piece. -/
theorem squeeze_append_of_head {bs : List Char} (h : ∀ c ∈ bs.head?, isBlank c = false)
    (as : List Char) (after : Bool) :
    squeeze after (as ++ bs) = squeeze after as ++ squeeze false bs := by
  induction as generalizing after with
  | nil => rw [List.nil_append, squeeze_nil, List.nil_append, squeeze_of_head h]
  | cons a as ih =>
    rw [List.cons_append]
    cases ha : isBlank a with
    | false =>
      rw [squeeze_cons_of_not_isBlank ha, squeeze_cons_of_not_isBlank ha, ih, List.cons_append]
    | true =>
      rw [squeeze_cons_of_isBlank ha, squeeze_cons_of_isBlank ha, ih, List.append_assoc]

/-- No run of blanks comes from the first piece. -/
theorem squeeze_append_of_last {as : List Char} (hne : as ≠ [])
    (h : ∀ c ∈ as.getLast?, isBlank c = false) (bs : List Char) (after : Bool) :
    squeeze after (as ++ bs) = squeeze after as ++ squeeze false bs := by
  rcases List.eq_nil_or_concat as with rfl | ⟨ds, d, rfl⟩
  · exact absurd rfl hne
  · rw [List.concat_eq_append, List.getLast?_concat] at *
    have hd : isBlank d = false := h d rfl
    have hhead : ∀ c ∈ (d :: bs).head?, isBlank c = false := by simpa using hd
    have hlast : ∀ c ∈ [d].head?, isBlank c = false := by simpa using hd
    rw [List.append_assoc, List.singleton_append, squeeze_append_of_head hhead,
      squeeze_append_of_head hlast, squeeze_cons_of_not_isBlank hd, squeeze_cons_of_not_isBlank hd,
      squeeze_nil, List.append_assoc, List.singleton_append]

/-! ## What is left -/

/-- What squeezing leaves was there before, or is a space. -/
theorem mem_of_mem_squeeze : ∀ {cs : List Char} {after : Bool} {c : Char},
    c ∈ squeeze after cs → c = ' ' ∨ c ∈ cs ∧ isBlank c = false
  | [], after, c, h => by
    rw [squeeze_nil] at h
    exact absurd h List.not_mem_nil
  | d :: cs, after, c, h => by
    cases hd : isBlank d with
    | false =>
      rw [squeeze_cons_of_not_isBlank hd] at h
      rcases List.mem_cons.mp h with rfl | h
      · exact .inr ⟨List.mem_cons_self, hd⟩
      · exact (mem_of_mem_squeeze h).imp_right fun h => ⟨List.mem_cons_of_mem d h.1, h.2⟩
    | true =>
      rw [squeeze_cons_of_isBlank hd] at h
      rcases List.mem_append.mp h with h | h
      · cases after with
        | true => exact absurd h List.not_mem_nil
        | false => exact .inl (List.mem_singleton.mp h)
      · exact (mem_of_mem_squeeze h).imp_right fun h => ⟨List.mem_cons_of_mem d h.1, h.2⟩

/-- **The only blanks of a squeezed text are spaces.** -/
theorem eq_space_of_mem_squeeze {cs : List Char} {after : Bool} {c : Char}
    (h : c ∈ squeeze after cs) (hc : isBlank c = true) : c = ' ' :=
  (mem_of_mem_squeeze h).resolve_right fun h => by
    rw [h.2] at hc
    exact nomatch hc

/-- Squeezing leaves blanks of blanks. -/
theorem isBlank_of_mem_squeeze {blanks : List Char} (h : ∀ c ∈ blanks, isBlank c = true) :
    ∀ c ∈ squeeze false blanks, isBlank c = true := by
  intro c hc
  rcases mem_of_mem_squeeze hc with rfl | ⟨hmem, -⟩
  · decide
  · exact h c hmem

theorem squeeze_blanks {blanks : List Char} (h : ∀ c ∈ blanks, isBlank c = true) :
    ∀ c ∈ squeeze false blanks, c = ' ' :=
  fun c hc => eq_space_of_mem_squeeze hc (isBlank_of_mem_squeeze h c hc)

theorem squeeze_eq_nil_iff {cs : List Char} : squeeze false cs = [] ↔ cs = [] := by
  cases cs with
  | nil => exact iff_of_true (squeeze_nil _) rfl
  | cons c cs =>
    refine iff_of_false (fun h => ?_) (List.cons_ne_nil c cs)
    cases hc : isBlank c with
    | false =>
      rw [squeeze_cons_of_not_isBlank hc] at h
      exact nomatch h
    | true =>
      rw [squeeze_cons_of_isBlank hc] at h
      exact nomatch h

/-- Without blanks there is nothing to squeeze. -/
theorem squeeze_of_not_isBlank {cs : List Char} (h : ∀ c ∈ cs, isBlank c = false) (after : Bool) :
    squeeze after cs = cs := by
  induction cs generalizing after with
  | nil => exact squeeze_nil _
  | cons c cs ih =>
    obtain ⟨hc, hcs⟩ := List.forall_mem_cons.mp h
    rw [squeeze_cons_of_not_isBlank hc, ih hcs]

theorem head?_squeeze {cs : List Char} (h : ∀ c ∈ cs.head?, isBlank c = false) :
    (squeeze false cs).head? = cs.head? := by
  cases cs with
  | nil => rw [squeeze_nil]
  | cons c cs => rw [squeeze_cons_of_not_isBlank (h c rfl), List.head?_cons, List.head?_cons]

theorem getLast?_squeeze {cs : List Char} (h : ∀ c ∈ cs.getLast?, isBlank c = false) :
    (squeeze false cs).getLast? = cs.getLast? := by
  rcases List.eq_nil_or_concat cs with rfl | ⟨ds, d, rfl⟩
  · rw [squeeze_nil]
  · rw [List.concat_eq_append, List.getLast?_concat] at *
    have hd : ∀ c ∈ [d], isBlank c = false := by simpa using h
    rw [squeeze_append_of_head (by simpa using h), squeeze_of_not_isBlank hd, List.getLast?_concat]

theorem IsTrimmed.squeeze {cs : List Char} (h : IsTrimmed cs) :
    IsTrimmed (Text.squeeze false cs) where
  head := by
    rw [head?_squeeze h.head]
    exact h.head
  last := by
    rw [getLast?_squeeze h.last]
    exact h.last

/-- Neither empty nor with a blank at either end. -/
structure IsPacked (cs : List Char) : Prop where
  ne_nil : cs ≠ []
  trimmed : IsTrimmed cs

theorem IsPacked.of_not_isBlank {cs : List Char} (hne : cs ≠ [])
    (h : ∀ c ∈ cs, isBlank c = false) : IsPacked cs where
  ne_nil := hne
  trimmed := (IsTidy.of_not_isBlank hne h).trimmed

/-- Whatever stands between them, two packed texts are the ends of one. -/
theorem IsPacked.append {as bs : List Char} (ha : IsPacked as) (hb : IsPacked bs)
    (between : List Char) : IsPacked (as ++ (between ++ bs)) where
  ne_nil := List.append_ne_nil_of_left_ne_nil ha.ne_nil _
  trimmed := ha.trimmed.append hb.trimmed ha.ne_nil hb.ne_nil between

theorem IsPacked.squeeze {cs : List Char} (h : IsPacked cs) :
    IsPacked (Text.squeeze false cs) where
  ne_nil := mt squeeze_eq_nil_iff.mp h.ne_nil
  trimmed := h.trimmed.squeeze

/-- **Between two packed texts** blanks become one space, or there are none. -/
theorem squeeze_between {as gap bs : List Char} (ha : IsPacked as) (hb : IsPacked bs) :
    squeeze false (as ++ (gap ++ bs)) =
      squeeze false as ++ (squeeze false gap ++ squeeze false bs) := by
  rw [squeeze_append_of_last ha.ne_nil ha.trimmed.last, squeeze_append_of_head hb.trimmed.head]

/-! ## Trimming -/

/-- **Blanks around a trimmed text** are all there is to drop. -/
theorem trimChars_padded {start stop cs : List Char} (hstart : ∀ c ∈ start, isBlank c = true)
    (hstop : ∀ c ∈ stop, isBlank c = true) (h : IsTrimmed cs) :
    trimChars (start ++ (cs ++ stop)) = cs := by
  have hdrop : ∀ {blanks : List Char}, (∀ c ∈ blanks, isBlank c = true) → ∀ cs : List Char,
      (blanks ++ cs).dropWhile isBlank = cs.dropWhile isBlank :=
    fun hblanks _ => List.dropWhile_append_of_pos hblanks
  unfold trimChars trimEndChars
  rw [hdrop hstart]
  cases cs with
  | nil =>
    rw [List.nil_append, ← List.append_nil stop, hdrop hstop]
    rfl
  | cons c cs =>
    have hhead : (c :: cs ++ stop).dropWhile isBlank = c :: cs ++ stop :=
      dropWhile_isBlank_eq_self h.head
    have hlast : (c :: cs).reverse.dropWhile isBlank = (c :: cs).reverse :=
      dropWhile_isBlank_eq_self fun d hd => h.last d (by rwa [List.head?_reverse] at hd)
    rw [hhead, List.reverse_append, hdrop fun d hd => hstop d (List.mem_reverse.mp hd), hlast,
      List.reverse_reverse]

/-- **Collapsing** squeezes what stands between blanks. -/
theorem toList_collapse_padded {start stop cs : List Char}
    (hstart : ∀ c ∈ start, isBlank c = true) (hstop : ∀ c ∈ stop, isBlank c = true)
    (h : IsPacked cs) :
    (collapse (String.ofList (start ++ (cs ++ stop)))).toList = squeeze false cs := by
  have hhead : ∀ c ∈ (cs ++ stop).head?, isBlank c = false := by
    rw [head?_append_of_ne_nil h.ne_nil]
    exact h.trimmed.head
  rw [toList_collapse, String.toList_ofList, squeeze_append_of_head hhead,
    squeeze_append_of_last h.ne_nil h.trimmed.last,
    trimChars_padded (isBlank_of_mem_squeeze hstart) (isBlank_of_mem_squeeze hstop)
      h.trimmed.squeeze]

end CiteSieve.Text
