import CiteSieve.Proofs.Pasted.Grammar

/-!
# Where a pasted query is cut

`cut` looks for an operator outside quotes and parentheses. A text is crossed when the search goes
through it without finding one, whatever character it comes from (`Crosses`). Terms are crossed at
any depth, and everything within parentheses is; so the search finds the operators between the
parts that were joined by it, and no others.

* `crosses_term`: a term is crossed, when a space, a closing parenthesis or nothing follows.
* `splitTopLevel_of_joins`: splitting parts that were joined gives the parts, if they can be joined
  (`Joins`); texts that are crossed can (`splitTopLevel_intercalate`).
-/

namespace CiteSieve.Pasted

/-- What is found behind the text `cs`, as seen from before it. -/
def behind (cs : List Char) (found : List Char × List (List Char)) :
    List Char × List (List Char) :=
  (cs ++ found.1, found.2)

/-- The search from `n` goes through `cs` and is at `n'` behind it, if `rest` follows. -/
def Crosses (word : List Char) (n : Nesting) (cs rest : List Char) (n' : Nesting) : Prop :=
  ∀ last, ∃ last', cut word n last 0 false (cs ++ rest) = behind cs (cut word n' last' 0 false rest)

/-- A word that is looked for: capital letters. -/
structure IsWord (word : List Char) : Prop where
  ne_nil : word ≠ []
  upper : Text.upperChars word = word
  plain : ∀ c ∈ word, isPlain c = true
  noBlank : ∀ c ∈ word, Text.isBlank c = false

theorem isWord_and : IsWord "AND".toList where
  ne_nil := by decide
  upper := by decide
  plain := by decide
  noBlank := by decide

theorem isWord_or : IsWord "OR".toList where
  ne_nil := by decide
  upper := by decide
  plain := by decide
  noBlank := by decide

theorem isWord_of {word : List Char} (h : word = "AND".toList ∨ word = "OR".toList) :
    IsWord word := by
  rcases h with rfl | rfl
  · exact isWord_and
  · exact isWord_or

/-- A space, a closing parenthesis or the end. -/
def EndsTerm (rest : List Char) : Prop :=
  ∀ c ∈ rest.head?, c = ' ' ∨ c = ')'

/-! ## Composition -/

theorem behind_behind (as bs : List Char) (found : List Char × List (List Char)) :
    behind as (behind bs found) = behind (as ++ bs) found := by
  unfold behind
  rw [List.append_assoc]

theorem Crosses.trans {word as bs rest : List Char} {n₁ n₂ n₃ : Nesting}
    (ha : Crosses word n₁ as (bs ++ rest) n₂) (hb : Crosses word n₂ bs rest n₃) :
    Crosses word n₁ (as ++ bs) rest n₃ := by
  intro last
  obtain ⟨last', ha⟩ := ha last
  obtain ⟨last'', hb⟩ := hb last'
  refine ⟨last'', ?_⟩
  rw [List.append_assoc, ha, hb, behind_behind]

/-! ## One character -/

theorem isPlain_iff {c : Char} :
    isPlain c = true ↔ isStraightQuote c = false ∧ c ≠ '(' ∧ c ≠ ')' ∧ c ≠ '\\' := by
  unfold isPlain
  simp only [Bool.and_eq_true, Bool.not_eq_true', bne_iff_ne, and_assoc]

/-- Where no operator begins, the search takes one character. -/
theorem cut_step {word : List Char} {n : Nesting} {last : Option Char} {c : Char}
    {cs : List Char} (hc : c ≠ '\\') (ho : operatorHere word n last (c :: cs) = false) :
    cut word n last 0 false (c :: cs) = behind [c] (cut word (n.next c) (some c) 0 false cs) := by
  conv => lhs; unfold cut
  rw [if_neg (fun h => hc h.1), ho, if_neg Bool.false_ne_true]
  rfl

theorem operatorHere_cons {word : List Char} {n : Nesting} {last : Option Char} {c : Char}
    {cs : List Char} (h : operatorHere word n last (c :: cs) = true) :
    n.quote = none ∧ n.depth = 0 ∧ isStraightQuote c = false ∧ c ≠ '(' ∧ c ≠ ')' ∧
      (last = some ' ' ∨ last = some ')') ∧ wordFollows word (c :: cs) = true := by
  unfold operatorHere at h
  simpa [Bool.and_eq_true, and_assoc] using h

theorem next_of_isPlain {c : Char} (h : isPlain c = true) (d : Nat) :
    Nesting.next ⟨d, none⟩ c = ⟨d, none⟩ := by
  obtain ⟨hq, ho, hc, -⟩ := isPlain_iff.mp h
  simp only [Nesting.next, hq, Bool.false_eq_true, if_false, ho, hc]

theorem crosses_open (word rest : List Char) (d : Nat) :
    Crosses word ⟨d, none⟩ ['('] rest ⟨d + 1, none⟩ := by
  intro last
  refine ⟨some '(', cut_step (by decide) ?_⟩
  exact Bool.eq_false_iff.mpr fun h => (operatorHere_cons h).2.2.2.1 rfl

theorem crosses_close (word rest : List Char) (d : Nat) :
    Crosses word ⟨d + 1, none⟩ [')'] rest ⟨d, none⟩ := by
  intro last
  refine ⟨some ')', cut_step (by decide) ?_⟩
  exact Bool.eq_false_iff.mpr fun h => (operatorHere_cons h).2.2.2.2.1 rfl

/-! ## Quotes and parentheses -/

/-- In quotes everything is crossed up to the closing one. -/
theorem cut_quoted (word rest : List Char) (d : Nat) : ∀ {cs : List Char} (last : Option Char),
    (∀ c ∈ cs, c ≠ '"' ∧ c ≠ '\\') →
    cut word ⟨d, some '"'⟩ last 0 false (cs ++ '"' :: rest) =
      behind (cs ++ ['"']) (cut word ⟨d, none⟩ (some '"') 0 false rest)
  | [], last, _ => by
    refine cut_step (by decide) ?_
    exact Bool.eq_false_iff.mpr fun h => nomatch (operatorHere_cons h).1
  | c :: cs, last, h => by
    obtain ⟨hq, hb⟩ := h c List.mem_cons_self
    have ho : operatorHere word ⟨d, some '"'⟩ last (c :: (cs ++ '"' :: rest)) = false :=
      Bool.eq_false_iff.mpr fun h => nomatch (operatorHere_cons h).1
    have hn : Nesting.next ⟨d, some '"'⟩ c = ⟨d, some '"'⟩ := if_neg hq
    rw [List.cons_append, cut_step hb ho, hn,
      cut_quoted word rest d _ fun c' hc' => h c' (List.mem_cons_of_mem c hc'), behind_behind]
    rfl

theorem crosses_quoted (word rest : List Char) (d : Nat) {cs : List Char}
    (h : ∀ c ∈ cs, c ≠ '"' ∧ c ≠ '\\') :
    Crosses word ⟨d, none⟩ ('"' :: (cs ++ ['"'])) rest ⟨d, none⟩ := by
  intro last
  refine ⟨some '"', ?_⟩
  have ho : operatorHere word ⟨d, none⟩ last ('"' :: (cs ++ '"' :: rest)) = false :=
    Bool.eq_false_iff.mpr fun h => nomatch (operatorHere_cons h).2.2.1
  rw [List.cons_append, List.append_assoc, List.singleton_append, cut_step (by decide) ho,
    show Nesting.next ⟨d, none⟩ '"' = ⟨d, some '"'⟩ from rfl, cut_quoted word rest d _ h,
    behind_behind]
  rfl

/-- In parentheses all plain characters are crossed. -/
theorem crosses_inside (word rest : List Char) (d : Nat) : ∀ {cs : List Char},
    (∀ c ∈ cs, isPlain c = true) → Crosses word ⟨d + 1, none⟩ cs rest ⟨d + 1, none⟩
  | [], _ => fun last => ⟨last, rfl⟩
  | c :: cs, h => by
    have hc := h c List.mem_cons_self
    have hcross : Crosses word ⟨d + 1, none⟩ [c] (cs ++ rest) ⟨d + 1, none⟩ := by
      intro last
      have ho : operatorHere word ⟨d + 1, none⟩ last (c :: (cs ++ rest)) = false :=
        Bool.eq_false_iff.mpr fun h => nomatch (operatorHere_cons h).2.1
      refine ⟨some c, ?_⟩
      rw [List.singleton_append, cut_step (isPlain_iff.mp hc).2.2.2 ho, next_of_isPlain hc]
    exact hcross.trans (crosses_inside word rest d fun c' hc' => h c' (List.mem_cons_of_mem c hc'))

/-! ## Terms -/

/-- Within a word no operator begins. -/
theorem cut_word (word rest : List Char) (d : Nat) : ∀ {cs : List Char} (last : Char),
    (∀ c ∈ last :: cs, isPlain c = true ∧ c ≠ ' ') →
    ∃ last', cut word ⟨d, none⟩ (some last) 0 false (cs ++ rest) =
      behind cs (cut word ⟨d, none⟩ last' 0 false rest)
  | [], last, _ => ⟨some last, rfl⟩
  | c :: cs, last, h => by
    obtain ⟨hlast, hspace⟩ := h last List.mem_cons_self
    have hc := (h c (List.mem_cons_of_mem last List.mem_cons_self)).1
    have ho : operatorHere word ⟨d, none⟩ (some last) (c :: (cs ++ rest)) = false := by
      refine Bool.eq_false_iff.mpr fun h => ?_
      rcases (operatorHere_cons h).2.2.2.2.2.1 with h | h
      · exact hspace (Option.some.inj h)
      · exact (isPlain_iff.mp hlast).2.2.1 (Option.some.inj h)
    obtain ⟨last', ih⟩ := cut_word word rest d c fun c' hc' => h c' (List.mem_cons_of_mem last hc')
    refine ⟨last', ?_⟩
    rw [List.cons_append, cut_step (isPlain_iff.mp hc).2.2.2 ho, next_of_isPlain hc, ih,
      behind_behind]
    rfl

/-- Changing the case keeps a space and a closing parenthesis. -/
theorem mem_upperChars {c : Char} (h : c = ' ' ∨ c = ')') {cs : List Char} (hc : c ∈ cs) :
    c ∈ Text.upperChars cs := by
  refine List.mem_flatMap.mpr ⟨c, hc, ?_⟩
  rcases h with rfl | rfl <;> decide

theorem wordFollows_iff {word cs : List Char} : wordFollows word cs = true ↔
    Text.upperChars (cs.take word.length) = word ∧
      ∀ c ∈ (cs.drop word.length).head?, c = ' ' ∨ c = '(' := by
  unfold wordFollows
  cases (cs.drop word.length).head? with
  | none => simp
  | some c => simp

/-- Where a space or a closing parenthesis stands within its length, the word does not begin. -/
theorem wordFollows_of_mem {word cs : List Char} (hw : IsWord word) {c : Char}
    (h : c = ' ' ∨ c = ')') (hc : c ∈ cs.take word.length) : wordFollows word cs = false := by
  refine Bool.eq_false_iff.mpr fun hfollows => ?_
  have hword := mem_upperChars h hc
  rw [(wordFollows_iff.mp hfollows).1] at hword
  rcases h with rfl | rfl
  · exact absurd (hw.noBlank _ hword) (by decide)
  · exact absurd (hw.plain _ hword) (by decide)

theorem wordFollows_space {word : List Char} (hw : IsWord word) (cs : List Char) :
    wordFollows word (' ' :: cs) = false := by
  refine wordFollows_of_mem hw (Or.inl rfl) ?_
  cases word with
  | nil => exact absurd rfl hw.ne_nil
  | cons w word => exact List.mem_cons_self

/-- Where the word begins, it is followed by a space or an opening parenthesis. -/
theorem wordFollows_of_getElem {word cs : List Char} (rest : List Char)
    (h : word.length < cs.length) (hc : cs[word.length] ≠ ' ' ∧ cs[word.length] ≠ '(') :
    wordFollows word (cs ++ rest) = false := by
  refine Bool.eq_false_iff.mpr fun hfollows => ?_
  have hnext := (wordFollows_iff.mp hfollows).2
  rw [List.drop_append_of_le_length (by omega), List.drop_eq_getElem_cons h] at hnext
  rcases hnext _ rfl with h | h
  · exact hc.1 h
  · exact hc.2 h

/-- A term that is not the word does not begin with it: a shorter one ends within the word, and a
longer one goes on with a character of its own. -/
theorem wordFollows_term {word cs rest : List Char} (hw : IsWord word)
    (hcs : ∀ c ∈ cs, isPlain c = true ∧ c ≠ ' ') (hne : Text.upperChars cs ≠ word)
    (hrest : EndsTerm rest) : wordFollows word (cs ++ rest) = false := by
  have htake : (cs ++ rest).take word.length = cs → wordFollows word (cs ++ rest) = false := by
    intro htake
    refine Bool.eq_false_iff.mpr fun hfollows => hne ?_
    rw [← (wordFollows_iff.mp hfollows).1, htake]
  rcases Nat.lt_trichotomy cs.length word.length with hlen | hlen | hlen
  · cases rest with
    | nil => exact htake (by rw [List.append_nil, List.take_of_length_le (by omega)])
    | cons r rest =>
      refine wordFollows_of_mem hw (hrest r rfl) ?_
      exact List.mem_take_iff_getElem.mpr ⟨cs.length, by simp; omega, by simp⟩
  · exact htake (by rw [← hlen, List.take_left])
  · obtain ⟨hp, hs⟩ := hcs _ (List.getElem_mem hlen)
    exact wordFollows_of_getElem rest hlen ⟨hs, (isPlain_iff.mp hp).2.1⟩

theorem IsBare.ne_word {cs : List Char} (h : IsBare cs) {word : List Char}
    (hw : word = "AND".toList ∨ word = "OR".toList) : Text.upperChars cs ≠ word := by
  rcases hw with rfl | rfl
  · exact h.ne_and
  · exact h.ne_or

theorem crosses_bare {word cs rest : List Char} (hw : word = "AND".toList ∨ word = "OR".toList)
    (d : Nat) (hb : IsBare cs) (hspace : ' ' ∉ cs) (hrest : EndsTerm rest) :
    Crosses word ⟨d, none⟩ cs rest ⟨d, none⟩ := by
  intro last
  have hcs : ∀ c ∈ cs, isPlain c = true ∧ c ≠ ' ' :=
    fun c hc => ⟨hb.plain c hc, fun h => hspace (h ▸ hc)⟩
  have hfollows := wordFollows_term (isWord_of hw) hcs (hb.ne_word hw) hrest
  cases cs with
  | nil => exact ⟨last, rfl⟩
  | cons c cs =>
    have hc := (hcs c List.mem_cons_self).1
    have ho : operatorHere word ⟨d, none⟩ last (c :: (cs ++ rest)) = false := by
      refine Bool.eq_false_iff.mpr fun h => ?_
      exact Bool.eq_false_iff.mp hfollows (operatorHere_cons h).2.2.2.2.2.2
    obtain ⟨last', hcut⟩ := cut_word word rest d c hcs
    refine ⟨last', ?_⟩
    rw [List.cons_append, cut_step (isPlain_iff.mp hc).2.2.2 ho, next_of_isPlain hc, hcut,
      behind_behind]
    rfl

/-- **A term is crossed at any depth**, in either search. -/
theorem crosses_term {word cs rest : List Char} (hw : word = "AND".toList ∨ word = "OR".toList)
    (d : Nat) (h : IsTerm cs) (hrest : EndsTerm rest) :
    Crosses word ⟨d, none⟩ (termChars cs) rest ⟨d, none⟩ := by
  unfold termChars
  split
  · rename_i hspace
    exact crosses_quoted word rest d (h.quoted hspace)
  · rename_i hspace
    exact crosses_bare hw d (h.bare hspace) hspace hrest

/-! ## Operators -/

theorem cut_space {word : List Char} (hw : IsWord word) (last : Option Char) (rest : List Char) :
    cut word {} last 0 false (' ' :: rest) = behind [' '] (cut word {} (some ' ') 0 false rest) := by
  refine cut_step (by decide) (Bool.eq_false_iff.mpr fun h => ?_)
  exact Bool.eq_false_iff.mp (wordFollows_space hw rest) (operatorHere_cons h).2.2.2.2.2.2

/-- The last character of a text, or the one before it. -/
theorem getLast?_cons_or (c : Char) (cs : List Char) (last : Option Char) :
    (c :: cs).getLast?.or last = cs.getLast?.or (some c) := by
  rw [List.getLast?_cons]
  cases cs.getLast? <;> rfl

theorem cut_skip (word rest : List Char) (n : Nesting) : ∀ (cs : List Char) (last : Option Char),
    cut word n last cs.length false (cs ++ rest) =
      cut word n (cs.getLast?.or last) 0 false rest
  | [], last => rfl
  | c :: cs, last => by
    rw [getLast?_cons_or, ← cut_skip word rest n cs (some c), List.length_cons, List.cons_append]
    conv => lhs; unfold cut
    rfl

theorem operatorHere_word {word : List Char} (hw : IsWord word) (rest : List Char) :
    operatorHere word {} (some ' ') (word ++ ' ' :: rest) = true := by
  have hfollows : wordFollows word (word ++ ' ' :: rest) = true := by
    refine wordFollows_iff.mpr ⟨?_, ?_⟩
    · rw [List.take_left, hw.upper]
    · rw [List.drop_left]
      exact fun c hc => Or.inl (Option.some.inj hc).symm
  cases word with
  | nil => exact absurd rfl hw.ne_nil
  | cons w ws =>
    obtain ⟨hq, ho, hc, -⟩ := isPlain_iff.mp (hw.plain w List.mem_cons_self)
    rw [List.cons_append] at hfollows ⊢
    simp [operatorHere, hq, ho, hc, hfollows]

/-- The word is found behind a space, if a space follows. -/
theorem cut_separator {word : List Char} (hw : IsWord word) (last : Option Char)
    (rest : List Char) : cut word {} last 0 false (separator word ++ rest) =
      ([' '], let found := cut word {} (some ' ') 0 false rest; (' ' :: found.1) :: found.2) := by
  have hop := operatorHere_word hw rest
  unfold separator
  rw [List.cons_append, cut_space hw, List.append_assoc, List.singleton_append]
  cases word with
  | nil => exact absurd rfl hw.ne_nil
  | cons w ws =>
    have hb := (isPlain_iff.mp (hw.plain w List.mem_cons_self)).2.2.2
    have hskip := cut_skip (w :: ws) (' ' :: rest) {} ws (some w)
    rw [List.cons_append] at hop ⊢
    conv => lhs; unfold cut
    rw [if_neg (fun h => hb h.1), if_pos hop]
    simp only [List.length_cons, Nat.add_sub_cancel]
    rw [hskip, cut_space hw]
    rfl

/-! ## Splitting -/

/-- A part that splitting at a word leaves alone: trimmed and crossed. -/
structure IsPart (word part : List Char) : Prop where
  tidy : Text.IsTidy part
  crosses : ∀ rest, EndsTerm rest → Crosses word {} part rest {}

/-- Parts that can be joined, if the search comes to them behind `last`: they are trimmed, it goes
through every one of them, and before the last one it comes out where it can find the separator. -/
inductive Joins (word : List Char) : Option Char → List (List Char) → Prop
  | nil {last} : Joins word last []
  | single {last part} (htrim : Text.IsTrimmed part)
      (hcut : cut word {} last 0 false part = (part, [])) : Joins word last [part]
  | cons {last part next parts} (htrim : Text.IsTrimmed part)
      (hcut : ∀ rest, ∃ last', cut word {} last 0 false (part ++ (separator word ++ rest)) =
        behind part (cut word {} last' 0 false (separator word ++ rest)))
      (hjoins : Joins word (some ' ') (next :: parts)) : Joins word last (part :: next :: parts)

theorem joins_of_isPart {word : List Char} : ∀ {parts : List (List Char)} (last : Option Char),
    (∀ p ∈ parts, IsPart word p) → Joins word last parts
  | [], _, _ => .nil
  | [part], last, h => by
    have hpart := h part List.mem_cons_self
    obtain ⟨last', hcut⟩ := hpart.crosses [] (fun _ h => nomatch h) last
    rw [List.append_nil] at hcut
    refine .single hpart.tidy.trimmed (hcut.trans ?_)
    exact congrArg (·, []) (List.append_nil part)
  | part :: next :: parts, last, h => by
    have hpart := h part List.mem_cons_self
    exact .cons hpart.tidy.trimmed
      (fun rest => hpart.crosses (separator word ++ rest)
        (fun _ h => Or.inl (Option.some.inj h).symm) last)
      (joins_of_isPart _ fun p hp => h p (List.mem_cons_of_mem part hp))

/-- The pieces of joined parts are the parts, up to blanks at their ends. -/
theorem cut_intercalate {word : List Char} (hw : IsWord word) {last : Option Char}
    {parts : List (List Char)} (h : Joins word last parts) (hne : parts ≠ []) :
    let found := cut word {} last 0 false ((separator word).intercalate parts)
    (found.1 :: found.2).map Text.trimChars = parts := by
  induction h with
  | nil => exact absurd rfl hne
  | single htrim hcut =>
    rw [List.intercalate_singleton, hcut]
    exact congrArg ([·]) (Text.trimChars_eq_self htrim)
  | @cons last part next parts htrim hcut _ ih =>
    have ih := ih (List.cons_ne_nil next parts)
    obtain ⟨last', hcut⟩ := hcut ((separator word).intercalate (next :: parts))
    rw [List.intercalate_cons_cons, List.append_assoc, hcut, cut_separator hw]
    dsimp only [behind] at ih ⊢
    rw [List.map_cons, List.map_cons, Text.trimChars_append_of_isBlank (by decide) htrim,
      Text.trimChars_cons_of_isBlank (by decide), ← List.map_cons, ih]

/-- **Splitting undoes joining.** -/
theorem splitTopLevel_of_joins {word : List Char} (hw : IsWord word) {parts : List (List Char)}
    (h : Joins word none parts) (hne : ∀ p ∈ parts, p ≠ []) :
    splitTopLevel ((separator word).intercalate parts) word = parts := by
  cases parts with
  | nil => rfl
  | cons part parts =>
    unfold splitTopLevel
    change List.filter _ (List.map Text.trimChars (_ :: _)) = _
    rw [cut_intercalate hw h (List.cons_ne_nil part parts)]
    exact List.filter_eq_self.mpr fun p hp => decide_eq_true (hne p hp)

theorem splitTopLevel_intercalate {word : List Char} (hw : IsWord word) {parts : List (List Char)}
    (h : ∀ p ∈ parts, IsPart word p) :
    splitTopLevel ((separator word).intercalate parts) word = parts :=
  splitTopLevel_of_joins hw (joins_of_isPart none h) fun p hp => (h p hp).tidy.ne_nil

end CiteSieve.Pasted
