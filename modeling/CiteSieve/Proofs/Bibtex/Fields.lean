import CiteSieve.Proofs.Bibtex.Written

/-!
# Reading written fields

The body of a written entry is read field by field. A braced value ends at the brace that was
written behind it (`closeBrace_value`), so nothing of what follows is taken into it.

* `parseFields_bodyChars`: the fields of a written body are the fields that were written.
-/

namespace CiteSieve.Bibtex

/-! ## Values -/

theorem isPlain_of_mem_group {g : List Char} (hg : GroupText g) :
    ∀ c ∈ g, isPlain c = true := by
  induction hg with
  | nil => exact fun c hc => absurd hc List.not_mem_nil
  | plain hc _ _ ih => exact List.forall_mem_cons.mpr ⟨hc, ih⟩
  | escaped hc _ ih =>
    exact List.forall_mem_cons.mpr ⟨by decide, List.forall_mem_cons.mpr ⟨hc, ih⟩⟩

/-- A value that can be written is one that can be read. -/
theorem ValueText.inBraces {v : List Char} (hv : ValueText v) : InBraces v := by
  induction hv with
  | nil => exact .nil
  | plain hc hb _ ih => exact .plain hc hb ih
  | escaped _ ih => exact .escaped ih
  | group hg _ ih => exact .group (isPlain_of_mem_group hg) ih

theorem closeQuote_cons {c : Char} (hb : c ≠ '\\') (cs : List Char) :
    closeQuote (c :: cs) =
      if c = '"' then some ([], cs)
      else (closeQuote cs).map fun (v, rest) => (c :: v, rest) :=
  closeQuote.eq_4 c cs (fun e _ => hb e) (fun _ _ e _ => hb e)

/-- **A value in quotes ends at its own quote.** -/
theorem closeQuote_value {v : List Char} (hv : InQuotes v) (tail : List Char) :
    closeQuote (v ++ '"' :: tail) = some (v, tail) := by
  induction hv with
  | nil => rw [List.nil_append, closeQuote_cons (by decide), if_pos rfl]
  | plain hq hb _ ih =>
    rw [List.cons_append, closeQuote_cons hb, if_neg hq, ih]
    rfl
  | escaped _ ih =>
    rw [List.cons_append, List.cons_append, closeQuote, ih]
    rfl

theorem value?_quoted {v : List Char} (hv : InQuotes v) (tail : List Char) :
    value? ('"' :: (v ++ '"' :: tail)) = some ('"' :: v ++ ['"'], tail) := by
  rw [value?, if_pos rfl, closeQuote_value hv]
  rfl

theorem closeBraceWithin_close (n : Nat) (tail : List Char) :
    closeBraceWithin (n + 1) ('\x7d' :: tail) = some ([], tail) := by
  rw [closeBraceWithin, if_pos rfl]

theorem closeBraceWithin_plain {c : Char} (hc : isPlain c = true) (hb : c ≠ '\\') (n : Nat)
    (cs : List Char) :
    closeBraceWithin (n + 1) (c :: cs) = (closeBraceWithin n cs).map (behind [c]) := by
  obtain ⟨ho, hcl⟩ := ne_of_isPlain hc
  rw [closeBraceWithin, if_neg hcl, if_neg ho]
  dsimp only
  split
  · exact absurd rfl hb
  · rfl

theorem closeBraceWithin_escaped {n : Nat} {c : Char} {cs v tail : List Char}
    (h : closeBraceWithin n cs = some (v, tail)) :
    closeBraceWithin (n + 1) ('\\' :: c :: cs) = some ('\\' :: c :: v, tail) := by
  rw [closeBraceWithin, if_neg (by decide), if_neg (by decide)]
  simp only [h]

theorem closeBraceWithin_group {n : Nat} {g cs v tail : List Char}
    (hg : ∀ c ∈ g, isPlain c = true) (h : closeBraceWithin n cs = some (v, tail)) :
    closeBraceWithin (n + 1) ('\x7b' :: (g ++ '\x7d' :: cs)) =
      some ('\x7b' :: (g ++ '\x7d' :: v), tail) := by
  rw [closeBraceWithin, if_neg (by decide), if_pos rfl,
    dropWhile_append_of_all hg (by decide), takeWhile_append_of_all hg (by decide)]
  simp only [h, Option.map_some, List.cons_append]

/-- **A value between braces ends at its own brace**, however much is read. -/
theorem closeBraceWithin_value {v : List Char} (hv : InBraces v) : ∀ {n : Nat} (tail : List Char),
    v.length < n → closeBraceWithin n (v ++ '\x7d' :: tail) = some (v, tail) := by
  induction hv with
  | nil =>
    intro n tail hn
    obtain ⟨m, rfl⟩ := Nat.exists_eq_add_one.mpr (Nat.zero_lt_of_lt hn)
    exact closeBraceWithin_close m tail
  | plain hc hb _ ih =>
    intro n tail hn
    obtain ⟨m, rfl⟩ := Nat.exists_eq_add_one.mpr (Nat.zero_lt_of_lt hn)
    rw [List.length_cons] at hn
    rw [List.cons_append, closeBraceWithin_plain hc hb, ih tail (by omega)]
    rfl
  | escaped _ ih =>
    intro n tail hn
    obtain ⟨m, rfl⟩ := Nat.exists_eq_add_one.mpr (Nat.zero_lt_of_lt hn)
    simp only [List.length_cons] at hn
    exact closeBraceWithin_escaped (ih tail (by omega))
  | group hg _ ih =>
    intro n tail hn
    obtain ⟨m, rfl⟩ := Nat.exists_eq_add_one.mpr (Nat.zero_lt_of_lt hn)
    simp only [List.length_cons, List.length_append] at hn
    rw [List.cons_append, List.append_assoc, List.cons_append]
    exact closeBraceWithin_group hg (ih tail (by omega))

theorem closeBrace_value {v : List Char} (hv : InBraces v) (tail : List Char) :
    closeBrace (v ++ '\x7d' :: tail) = some (v, tail) :=
  closeBraceWithin_value hv tail (by simp only [List.length_append, List.length_cons]; omega)

theorem value?_braced {v : List Char} (hv : InBraces v) (tail : List Char) :
    value? ('\x7b' :: (v ++ '\x7d' :: tail)) = some ('\x7b' :: v ++ ['\x7d'], tail) := by
  rw [value?, if_neg (by decide), if_pos rfl, closeBrace_value hv]
  rfl

/-- What an assignment leaves: a comma after it belongs to it. -/
def afterComma (tail : List Char) : List Char :=
  match tail.dropWhile Text.isBlank with
  | ',' :: rest => rest
  | rest => rest

theorem afterComma_of_comma {tail rest : List Char}
    (h : tail.dropWhile Text.isBlank = ',' :: rest) : afterComma tail = rest := by
  unfold afterComma
  rw [h]
  rfl

theorem afterComma_of_ne {tail : List Char}
    (h : ∀ rest, tail.dropWhile Text.isBlank ≠ ',' :: rest) :
    afterComma tail = tail.dropWhile Text.isBlank := by
  unfold afterComma
  split
  · rename_i hr
    exact absurd hr (h _)
  · rfl

/-- An equals sign, between blanks or not, assigns the value that stands behind it. -/
theorem assigned?_of_value? (before behind : List Char) {c : Char} {cs v tail : List Char}
    (hbefore : ∀ c ∈ before, Text.isBlank c = true) (hbehind : ∀ c ∈ behind, Text.isBlank c = true)
    (hc : Text.isBlank c = false) (hvalue : value? (c :: cs) = some (v, tail)) :
    assigned? (before ++ '=' :: (behind ++ c :: cs)) = some (v, afterComma tail) := by
  unfold assigned?
  rw [dropWhile_append_of_all hbefore (by decide)]
  simp only []
  rw [dropWhile_append_of_all hbehind hc, hvalue, Option.map_some]
  dsimp only
  split
  · rename_i hr
    rw [afterComma_of_comma hr]
  · rename_i hne
    rw [afterComma_of_ne hne]

theorem assigned?_assignedChars {v : List Char} (hv : ValueText v) (tail : List Char) :
    assigned? (assignedChars v tail) = some ('\x7b' :: v ++ ['\x7d'], afterComma tail) :=
  assigned?_of_value? [' '] [' '] (by decide) (by decide) (by decide)
    (value?_braced hv.inBraces tail)

/-- Delimiters that belong together are removed. -/
theorem stripDelimiters_enclosed {a b : Char} (hab : (a = '\x7b' ∧ b = '\x7d') ∨ (a = '"' ∧ b = '"'))
    (v : List Char) : stripDelimiters (a :: v ++ [b]) = v := by
  unfold stripDelimiters
  have hlen : 2 ≤ (a :: v ++ [b]).length := by
    rw [List.cons_append, List.length_cons, List.length_append, List.length_singleton]
    omega
  have hclose : (a :: v ++ [b]).getLast? = some b := List.getLast?_concat
  have hopen : (a :: v ++ [b]).head? = some a := rfl
  rw [if_pos ⟨hlen, by rw [hclose, hopen]; rcases hab with ⟨rfl, rfl⟩ | ⟨rfl, rfl⟩ <;> decide⟩,
    List.cons_append, List.tail_cons, List.dropLast_concat]

theorem stripDelimiters_braced (v : List Char) :
    stripDelimiters ('\x7b' :: v ++ ['\x7d']) = v :=
  stripDelimiters_enclosed (.inl ⟨rfl, rfl⟩) v

/-! ## Fields -/

theorem fieldMatchesFrom_nil (n start : Nat) : fieldMatchesFrom n start [] = [] := by
  cases n <;> rfl

theorem fieldMatchesFrom_skip {c : Char} (hc : Text.isWord c = false) (n start : Nat)
    (cs : List Char) :
    fieldMatchesFrom (n + 1) start (c :: cs) = fieldMatchesFrom n (start + 1) cs := by
  rw [fieldMatchesFrom, if_neg (by simp [hc])]

/-- A key with an assignment behind it is a field, and reading goes on behind the assignment. -/
theorem fieldMatchesFrom_key {k : List Char} (hne : k ≠ []) (hk : ∀ c ∈ k, Text.isWord c = true)
    {c : Char} {cs v rest : List Char} (hc : Text.isWord c = false)
    (hassigned : assigned? (c :: cs) = some (v, rest)) (n start : Nat) :
    ∃ next, fieldMatchesFrom (n + 1) start (k ++ c :: cs) =
      ⟨start, k, v⟩ :: fieldMatchesFrom n next rest := by
  cases k with
  | nil => exact absurd rfl hne
  | cons k₀ k =>
    obtain ⟨hk₀, hk⟩ := List.forall_mem_cons.mp hk
    have hafter : (k ++ c :: cs).dropWhile Text.isWord = c :: cs :=
      dropWhile_append_of_all hk hc _
    have hkey : (k ++ c :: cs).takeWhile Text.isWord = k :=
      takeWhile_append_of_all hk hc _
    rw [List.cons_append, fieldMatchesFrom, if_pos hk₀]
    simp only [hafter, hkey, hassigned]
    exact ⟨_, rfl⟩

/-- **A field on its line is read as it was written**, and reading goes on behind its comma. -/
theorem fieldMatchesFrom_fieldChars {k v : String} (h : WritableField k v) (n start : Nat)
    (tail : List Char) :
    ∃ next, (fieldMatchesFrom (n + 4) start (fieldChars k.toList v.toList tail)).map
      FieldMatch.entry =
      (k, v) :: (fieldMatchesFrom n next (afterComma tail)).map FieldMatch.entry := by
  unfold fieldChars
  rw [fieldMatchesFrom_skip (by decide), fieldMatchesFrom_skip (by decide),
    fieldMatchesFrom_skip (by decide)]
  obtain ⟨next, e⟩ := fieldMatchesFrom_key h.key_ne h.key_word (by decide)
    (assigned?_assignedChars h.value tail) n (start + 1 + 1 + 1)
  refine ⟨next, ?_⟩
  unfold assignedChars
  rw [e, List.map_cons, FieldMatch.entry, stripDelimiters_braced, String.ofList_toList,
    String.ofList_toList, h.key_lower]

theorem entries_bodyChars : ∀ {fs : List (String × String)}, (∀ f ∈ fs, WritableField f.1 f.2) →
    ∀ {n : Nat} (start : Nat), (bodyChars fs).length ≤ n →
      (fieldMatchesFrom n start (bodyChars fs)).map FieldMatch.entry = fs
  | [], _, n, start, hn => by
    obtain ⟨m, rfl⟩ := Nat.exists_eq_add_one.mpr (Nat.zero_lt_of_lt hn)
    rw [bodyChars, fieldMatchesFrom_skip (by decide), fieldMatchesFrom_nil, List.map_nil]
  | [(k, v)], h, n, start, hn => by
    obtain ⟨m, rfl⟩ : ∃ m, n = m + 4 := ⟨n - 4, by
      simp only [bodyChars, fieldChars, assignedChars, List.length_cons, List.length_append] at hn
      omega⟩
    obtain ⟨next, e⟩ := fieldMatchesFrom_fieldChars (h (k, v) List.mem_cons_self) m start ['\n']
    rw [bodyChars, e, show afterComma ['\n'] = [] by decide, fieldMatchesFrom_nil, List.map_nil]
  | (k, v) :: f :: fs, h, n, start, hn => by
    simp only [bodyChars, fieldChars, assignedChars, List.length_cons, List.length_append] at hn
    obtain ⟨m, rfl⟩ : ∃ m, n = m + 4 := ⟨n - 4, by omega⟩
    obtain ⟨next, e⟩ := fieldMatchesFrom_fieldChars (h (k, v) List.mem_cons_self) m start
      (',' :: bodyChars (f :: fs))
    have hcomma : afterComma (',' :: bodyChars (f :: fs)) = bodyChars (f :: fs) := by
      unfold afterComma
      rw [List.dropWhile_cons_of_neg (by decide)]
      rfl
    rw [bodyChars, e, hcomma,
      entries_bodyChars (fun f' hf' => h f' (List.mem_cons_of_mem _ hf')) next (by omega)]

/-- **The fields of a written body are the fields that were written.** -/
theorem parseFields_bodyChars {r : Record} (h : Writable r) :
    parseFields (bodyChars r.fields) = r.fields := by
  unfold parseFields fieldMatches
  rw [entries_bodyChars h.fields 0 (Nat.le_refl _), Assoc.ofList_of_nodup h.nodup]

end CiteSieve.Bibtex
