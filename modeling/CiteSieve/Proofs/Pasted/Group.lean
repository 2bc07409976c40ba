import CiteSieve.Proofs.Pasted.Cut

/-!
# Reading a group

A group that was written is tidy and one part of its query (`isPart_group`), and reading it gives
what it was written from (`parseGroup_groupChars`): the `NOT` before it, the parentheses around
several terms, the operators between them and the quotes around each are what is taken off.
-/

namespace CiteSieve.Pasted

/-! ## Equations -/

theorem termsChars_singleton (t : List Char) : termsChars [t] = termChars t :=
  List.intercalate_singleton

theorem termsChars_cons_cons (t u : List Char) (terms : List (List Char)) :
    termsChars (t :: u :: terms) =
      termChars t ++ (separator "OR".toList ++ termsChars (u :: terms)) := by
  unfold termsChars
  rw [List.map_cons, List.map_cons, List.intercalate_cons_cons, List.append_assoc]

theorem enclosedChars_singleton (t : List Char) : enclosedChars [t] = termChars t :=
  (if_neg (by simp)).trans (termsChars_singleton t)

theorem enclosedChars_cons_cons (t u : List Char) (terms : List (List Char)) :
    enclosedChars (t :: u :: terms) = '(' :: (termsChars (t :: u :: terms) ++ [')']) :=
  if_pos (by simp)

/-! ## Tidy texts -/

theorem tidy_termChars {cs : List Char} (h : IsTerm cs) : Text.IsTidy (termChars cs) := by
  have hquote : Text.IsTidy ['"'] := .of_not_isBlank (by decide) (by decide)
  unfold termChars
  split
  · exact hquote.append (h.tidy.append hquote)
  · exact h.tidy

theorem tidy_intercalate {word : List Char} (hw : IsWord word) : ∀ {parts : List (List Char)},
    parts ≠ [] → (∀ p ∈ parts, Text.IsTidy p) → Text.IsTidy ((separator word).intercalate parts)
  | [], hne, _ => absurd rfl hne
  | [part], _, h => by
    rw [List.intercalate_singleton]
    exact h part List.mem_cons_self
  | part :: next :: parts, _, h => by
    have ih := tidy_intercalate hw (List.cons_ne_nil next parts)
      fun p hp => h p (List.mem_cons_of_mem part hp)
    have hword : Text.IsTidy word := .of_not_isBlank hw.ne_nil hw.noBlank
    have htidy := (h part List.mem_cons_self).append_space (hword.append_space ih)
    rw [List.intercalate_cons_cons, List.append_assoc]
    unfold separator
    rwa [List.cons_append, List.append_assoc, List.singleton_append]

theorem tidy_termsChars {terms : List (List Char)} (hne : terms ≠ []) (h : ∀ t ∈ terms, IsTerm t) :
    Text.IsTidy (termsChars terms) := by
  refine tidy_intercalate isWord_or (by simpa using hne) fun p hp => ?_
  obtain ⟨t, ht, rfl⟩ := List.mem_map.mp hp
  exact tidy_termChars (h t ht)

theorem tidy_enclosedChars {terms : List (List Char)} (hne : terms ≠ [])
    (h : ∀ t ∈ terms, IsTerm t) : Text.IsTidy (enclosedChars terms) := by
  have hopen : Text.IsTidy ['('] := .of_not_isBlank (by decide) (by decide)
  have hclose : Text.IsTidy [')'] := .of_not_isBlank (by decide) (by decide)
  have hterms := tidy_termsChars hne h
  unfold enclosedChars
  split
  · exact hopen.append (hterms.append hclose)
  · exact hterms

theorem tidy_groupChars (exclude : Bool) {terms : List (List Char)} (hne : terms ≠ [])
    (h : ∀ t ∈ terms, IsTerm t) : Text.IsTidy (groupChars exclude terms) := by
  have hnot : Text.IsTidy "NOT".toList := .of_not_isBlank (by decide) (by decide)
  have hterms := tidy_enclosedChars hne h
  unfold groupChars
  split
  · exact hnot.append_space hterms
  · exact hterms

/-! ## One part of a query -/

theorem endsTerm_separator (word rest : List Char) : EndsTerm (separator word ++ rest) :=
  fun _ h => Or.inl (Option.some.inj h).symm

theorem isPlain_separator {word : List Char} (hw : IsWord word) :
    ∀ c ∈ separator word, isPlain c = true := by
  intro c hc
  rcases List.mem_cons.mp hc with rfl | hc
  · decide
  · rcases List.mem_append.mp hc with hc | hc
    · exact hw.plain c hc
    · rw [List.mem_singleton.mp hc]
      decide

/-- In parentheses the search for `AND` goes through all terms. -/
theorem crosses_terms (d : Nat) {rest : List Char} (hrest : EndsTerm rest) :
    ∀ {terms : List (List Char)}, (∀ t ∈ terms, IsTerm t) →
      Crosses "AND".toList ⟨d + 1, none⟩ (termsChars terms) rest ⟨d + 1, none⟩
  | [], _ => fun last => ⟨last, rfl⟩
  | [t], h => by
    rw [termsChars_singleton]
    exact crosses_term (Or.inl rfl) (d + 1) (h t List.mem_cons_self) hrest
  | t :: u :: terms, h => by
    rw [termsChars_cons_cons]
    refine (crosses_term (Or.inl rfl) (d + 1) (h t List.mem_cons_self) ?_).trans
      ((crosses_inside _ _ d (isPlain_separator isWord_or)).trans
        (crosses_terms d hrest fun t' ht' => h t' (List.mem_cons_of_mem t ht')))
    rw [List.append_assoc]
    exact endsTerm_separator _ _

theorem crosses_enclosed {rest : List Char} (hrest : EndsTerm rest) :
    ∀ {terms : List (List Char)}, terms ≠ [] → (∀ t ∈ terms, IsTerm t) →
      Crosses "AND".toList {} (enclosedChars terms) rest {}
  | [], hne, _ => absurd rfl hne
  | [t], _, h => by
    rw [enclosedChars_singleton]
    exact crosses_term (Or.inl rfl) 0 (h t List.mem_cons_self) hrest
  | t :: u :: terms, _, h => by
    have hclose : EndsTerm ([')'] ++ rest) := fun c hc => Or.inr (Option.some.inj hc).symm
    rw [enclosedChars_cons_cons]
    exact (crosses_open _ _ 0).trans ((crosses_terms 0 hclose h).trans (crosses_close _ _ 0))

/-- `NOT` itself is a word like others. -/
theorem isBare_not : IsBare "NOT".toList where
  plain := by decide
  head := by decide
  last := by decide
  ne_and := by decide
  ne_or := by decide

theorem crosses_not (rest : List Char) : Crosses "AND".toList {} "NOT ".toList rest {} := by
  have hword : Crosses "AND".toList {} "NOT".toList ([' '] ++ rest) {} :=
    crosses_bare (Or.inl rfl) 0 isBare_not (by decide) fun c hc => Or.inl (Option.some.inj hc).symm
  exact hword.trans fun last => ⟨some ' ', cut_space isWord_and last rest⟩

/-- **A group is one part of its query.** -/
theorem isPart_group (exclude : Bool) {terms : List (List Char)} (hne : terms ≠ [])
    (h : ∀ t ∈ terms, IsTerm t) : IsPart "AND".toList (groupChars exclude terms) where
  tidy := tidy_groupChars exclude hne h
  crosses := by
    intro rest hrest
    unfold groupChars
    split
    · exact (crosses_not _).trans (crosses_enclosed hrest hne h)
    · exact crosses_enclosed hrest hne h

theorem isPart_term {cs : List Char} (h : IsTerm cs) : IsPart "OR".toList (termChars cs) where
  tidy := tidy_termChars h
  crosses := fun _ hrest => crosses_term (Or.inr rfl) 0 h hrest

/-! ## Quotes -/

theorem dropQuote_of_isTermQuote {c : Char} (h : isTermQuote c = true) (cs : List Char) :
    dropQuote (c :: cs) = cs :=
  if_pos h

theorem dropQuote_eq_self {cs : List Char} (h : ∀ c ∈ cs.head?, isTermQuote c = false) :
    dropQuote cs = cs := by
  cases cs with
  | nil => rfl
  | cons c cs => exact if_neg (by rw [h c rfl]; exact Bool.false_ne_true)

/-- A quote is straight or typographic. -/
theorem isTermQuote_eq (c : Char) : isTermQuote c = (isStraightQuote c || isCurlyQuote c) := by
  have hquotes : "\"'“”‘’".toList = '"' :: '\'' :: "“”‘’".toList := by decide
  unfold isTermQuote isStraightQuote isCurlyQuote
  rw [hquotes, List.contains_cons, List.contains_cons, Bool.or_assoc]

theorem isTermQuote_of_isPlain {c : Char} (hp : isPlain c = true) (hc : isCurlyQuote c = false) :
    isTermQuote c = false := by
  rw [isTermQuote_eq, (isPlain_iff.mp hp).1, hc]
  rfl

/-- Where no quote stands at an end, none is taken off. -/
theorem stripQuotes_eq_self {cs : List Char} (htrim : Text.IsTrimmed cs)
    (hhead : ∀ c ∈ cs.head?, isTermQuote c = false)
    (hlast : ∀ c ∈ cs.getLast?, isTermQuote c = false) : stripQuotes cs = cs := by
  rw [← List.head?_reverse] at hlast
  unfold stripQuotes
  rw [Text.trimChars_eq_self htrim, dropQuote_eq_self hhead, dropQuote_eq_self hlast,
    List.reverse_reverse, Text.trimChars_eq_self htrim]

/-- **The quotes that are written are taken off**, and no others are. -/
theorem stripQuotes_termChars {cs : List Char} (h : IsTerm cs) : stripQuotes (termChars cs) = cs := by
  by_cases hspace : ' ' ∈ cs
  · have hquoted : termChars cs = '"' :: (cs ++ ['"']) := if_pos hspace
    have htidy := tidy_termChars h
    rw [hquoted] at htidy ⊢
    unfold stripQuotes
    rw [Text.trimChars_eq_self htidy.trimmed, dropQuote_of_isTermQuote (by decide),
      List.reverse_append, List.reverse_singleton, List.singleton_append,
      dropQuote_of_isTermQuote (by decide), List.reverse_reverse,
      Text.trimChars_eq_self h.tidy.trimmed]
  · have hb := h.bare hspace
    rw [termChars, if_neg hspace]
    refine stripQuotes_eq_self h.tidy.trimmed (fun c hc => ?_) fun c hc => ?_
    · exact isTermQuote_of_isPlain (hb.plain c (List.mem_of_mem_head? hc)) (hb.head c hc)
    · exact isTermQuote_of_isPlain (hb.plain c (List.mem_of_getLast? hc)) (hb.last c hc)

/-! ## Parentheses -/

theorem closesAtEnd_quoted (depth : Int) (rest : List Char) : ∀ {cs : List Char},
    (∀ c ∈ cs, c ≠ '"' ∧ c ≠ '\\') →
    closesAtEnd depth (some '"') (cs ++ '"' :: rest) = closesAtEnd depth none rest
  | [], _ => rfl
  | c :: cs, h => by
    rw [List.cons_append]
    conv => lhs; unfold closesAtEnd
    rw [if_neg (h c List.mem_cons_self).1]
    exact closesAtEnd_quoted depth rest fun c' hc' => h c' (List.mem_cons_of_mem c hc')

theorem closesAtEnd_plain (depth : Int) (rest : List Char) : ∀ {cs : List Char},
    (∀ c ∈ cs, isPlain c = true) →
    closesAtEnd depth none (cs ++ rest) = closesAtEnd depth none rest
  | [], _ => rfl
  | c :: cs, h => by
    obtain ⟨hq, ho, hc, -⟩ := isPlain_iff.mp (h c List.mem_cons_self)
    rw [List.cons_append]
    conv => lhs; unfold closesAtEnd
    rw [hq, if_neg Bool.false_ne_true, if_neg ho, if_neg hc]
    exact closesAtEnd_plain depth rest fun c' hc' => h c' (List.mem_cons_of_mem c hc')

/-- A term opens and closes nothing. -/
theorem closesAtEnd_term (depth : Int) (rest : List Char) {cs : List Char} (h : IsTerm cs) :
    closesAtEnd depth none (termChars cs ++ rest) = closesAtEnd depth none rest := by
  unfold termChars
  split
  · rename_i hspace
    rw [List.cons_append, List.append_assoc, List.singleton_append]
    exact closesAtEnd_quoted depth rest (h.quoted hspace)
  · rename_i hspace
    exact closesAtEnd_plain depth rest (h.bare hspace).plain

theorem closesAtEnd_terms (depth : Int) (rest : List Char) : ∀ {terms : List (List Char)},
    (∀ t ∈ terms, IsTerm t) →
    closesAtEnd depth none (termsChars terms ++ rest) = closesAtEnd depth none rest
  | [], _ => rfl
  | [t], h => by
    rw [termsChars_singleton, closesAtEnd_term depth rest (h t List.mem_cons_self)]
  | t :: u :: terms, h => by
    rw [termsChars_cons_cons, List.append_assoc, closesAtEnd_term depth _ (h t List.mem_cons_self),
      List.append_assoc, closesAtEnd_plain depth _ (isPlain_separator isWord_or),
      closesAtEnd_terms depth rest fun t' ht' => h t' (List.mem_cons_of_mem t ht')]

theorem isEnclosed_parenthesized {terms : List (List Char)} (h : ∀ t ∈ terms, IsTerm t) :
    isEnclosed ('(' :: (termsChars terms ++ [')'])) = true := by
  have hlast : ('(' :: (termsChars terms ++ [')'])).getLast? = some ')' := by
    rw [← List.cons_append, List.getLast?_concat]
  have hcloses : closesAtEnd 0 none ('(' :: (termsChars terms ++ [')'])) = true :=
    closesAtEnd_terms 1 [')'] h
  unfold isEnclosed
  rw [hlast, hcloses]
  rfl

theorem isEnclosed_of_head? {cs : List Char} (h : cs.head? ≠ some '(') : isEnclosed cs = false := by
  unfold isEnclosed
  rw [beq_eq_false_iff_ne.mpr h]
  rfl

/-- The first character of a term in writing is a quote or a character of its own. -/
theorem isEnclosed_term {cs : List Char} (h : IsTerm cs) : isEnclosed (termChars cs) = false := by
  refine isEnclosed_of_head? ?_
  unfold termChars
  split
  · exact fun hc => absurd (Option.some.inj hc) (by decide)
  · rename_i hspace
    intro hc
    exact (isPlain_iff.mp ((h.bare hspace).plain '(' (List.mem_of_mem_head? hc))).2.1 rfl

/-- **The parentheses that are written are taken off**, and no others are. -/
theorem unwrap_enclosedChars : ∀ {terms : List (List Char)}, terms ≠ [] →
    (∀ t ∈ terms, IsTerm t) → unwrap (enclosedChars terms) = termsChars terms
  | [], hne, _ => absurd rfl hne
  | [t], _, h => by
    unfold unwrap
    rw [enclosedChars_singleton, isEnclosed_term (h t List.mem_cons_self),
      if_neg Bool.false_ne_true, termsChars_singleton]
  | t :: u :: terms, hne, h => by
    unfold unwrap
    rw [enclosedChars_cons_cons, isEnclosed_parenthesized h, if_pos rfl, List.tail_cons,
      List.dropLast_concat, Text.trimChars_eq_self (tidy_termsChars hne h).trimmed]

/-! ## Excluded groups -/

theorem afterNot?_not (cs : List Char) :
    afterNot? ("NOT ".toList ++ cs) = some (cs.dropWhile Text.isBlank) := by
  change afterNot? ('N' :: 'O' :: 'T' :: ' ' :: cs) = _
  simp only [afterNot?]
  exact if_pos (by decide)

theorem afterNot?_of_head {cs : List Char}
    (h : ∀ c ∈ cs.head?, Fold.unicode.key c.toNat ≠ 'n'.toNat) : afterNot? cs = none := by
  unfold afterNot?
  split
  · rename_i n o t b cs
    refine if_neg fun hnot => ?_
    simp only [Bool.and_eq_true, beq_iff_eq] at hnot
    exact h n rfl hnot.1.1.1
  · rfl

/-- Without a blank there is nothing behind a `NOT`. -/
theorem afterNot?_of_not_isBlank {cs : List Char} (h : ∀ c ∈ cs, Text.isBlank c = false) :
    afterNot? cs = none := by
  unfold afterNot?
  split
  · rename_i n o t b cs
    refine if_neg fun hnot => ?_
    simp only [Bool.and_eq_true, h b (by simp), Bool.false_eq_true, and_false] at hnot
  · rfl

theorem afterNot?_term {cs : List Char} (h : IsTerm cs) : afterNot? (termChars cs) = none := by
  unfold termChars
  split
  · exact afterNot?_of_head fun c hc => by
      obtain rfl := Option.some.inj hc
      decide
  · rename_i hspace
    refine afterNot?_of_not_isBlank fun c hc => Bool.eq_false_iff.mpr fun hblank => ?_
    exact hspace (h.tidy.spaces c hc hblank ▸ hc)

theorem afterNot?_enclosed : ∀ {terms : List (List Char)}, (∀ t ∈ terms, IsTerm t) →
    afterNot? (enclosedChars terms) = none
  | [], _ => rfl
  | [t], h => by
    rw [enclosedChars_singleton, afterNot?_term (h t List.mem_cons_self)]
  | t :: u :: terms, _ => by
    rw [enclosedChars_cons_cons]
    exact afterNot?_of_head fun c hc => by
      obtain rfl := Option.some.inj hc
      decide

/-! ## Groups -/

/-- A term that is trimmed and not empty holds something else than blanks. -/
theorem isUsable_of_isTrimmed {t : String} (hne : t.toList ≠ []) (htrim : Text.IsTrimmed t.toList) :
    Term.isUsable t = true := by
  unfold Term.isUsable Text.allBlank
  rw [Bool.not_eq_true', List.all_eq_false]
  cases ht : t.toList with
  | nil => exact absurd ht hne
  | cons c cs =>
    refine ⟨c, List.mem_cons_self, ?_⟩
    rw [htrim.head c (by rw [ht]; rfl)]
    exact Bool.false_ne_true

/-- The terms of a group without its `NOT`. -/
def readTerms (cs : List Char) : List (List Char) :=
  ((splitTopLevel (unwrap cs) "OR".toList).map stripQuotes).filter (· ≠ [])

theorem parseGroup_eq (cs : List Char) : parseGroup cs =
    match afterNot? (Text.trimChars cs) with
    | some rest => (true, readTerms (Text.trimChars rest))
    | none => (false, readTerms (Text.trimChars cs)) := by
  unfold parseGroup readTerms
  dsimp only
  cases afterNot? (Text.trimChars cs) <;> rfl

theorem readTerms_enclosedChars {terms : List (List Char)} (hne : terms ≠ [])
    (h : ∀ t ∈ terms, IsTerm t) : readTerms (enclosedChars terms) = terms := by
  have hparts : ∀ p ∈ terms.map termChars, IsPart "OR".toList p := by
    intro p hp
    obtain ⟨t, ht, rfl⟩ := List.mem_map.mp hp
    exact isPart_term (h t ht)
  have hstrip : (terms.map termChars).map stripQuotes = terms := by
    rw [List.map_map]
    exact (List.map_congr_left fun t ht => stripQuotes_termChars (h t ht)).trans (List.map_id terms)
  unfold readTerms
  rw [unwrap_enclosedChars hne h]
  unfold termsChars
  rw [splitTopLevel_intercalate isWord_or hparts, hstrip]
  exact List.filter_eq_self.mpr fun t ht => decide_eq_true (h t ht).tidy.ne_nil

/-- **Reading a group gives what it was written from.** -/
theorem parseGroup_groupChars (exclude : Bool) {terms : List (List Char)} (hne : terms ≠ [])
    (h : ∀ t ∈ terms, IsTerm t) : parseGroup (groupChars exclude terms) = (exclude, terms) := by
  have htidy := tidy_enclosedChars hne h
  rw [parseGroup_eq, Text.trimChars_eq_self (tidy_groupChars exclude hne h).trimmed]
  cases exclude with
  | false =>
    rw [show groupChars false terms = enclosedChars terms from rfl, afterNot?_enclosed h,
      readTerms_enclosedChars hne h]
  | true =>
    rw [show groupChars true terms = "NOT ".toList ++ enclosedChars terms from rfl, afterNot?_not,
      Text.dropWhile_isBlank_eq_self htidy.trimmed.head]
    dsimp only
    rw [Text.trimChars_eq_self htidy.trimmed, readTerms_enclosedChars hne h]

end CiteSieve.Pasted
