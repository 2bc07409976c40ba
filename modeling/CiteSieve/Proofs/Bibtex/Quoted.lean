import CiteSieve.Proofs.Bibtex.Fields

/-!
# Entries with values in quotes

Entries on lines of their own, with their values in quotes. A closing brace in a quoted value counts
for nothing, but an opening one is counted, and from there on quotes count for nothing until as many
braces have closed. So braces of quoted values may stay open behind their entry.

* `crosses_quotedBody`: the braces that are open behind an entry are those that its values leave
  open (`heightBehind`).
* `crosses_nextHeader`: they stay open up to the values of the next entry.
* `record_quotedBody`: the fields of an entry are read as they were written.
-/

namespace CiteSieve.Bibtex

/-! ## Entries with values in quotes -/

/-- A field with its value in quotes. -/
def quotedField (f : String × String) : String :=
  f.1 ++ " = \"" ++ f.2 ++ "\""

/-- The entry of a record on one line. -/
def quotedEntry (r : Record) : String :=
  "@" ++ r.entryType ++ "\x7b" ++ r.citeKey ++ ", " ++
    ", ".intercalate (r.fields.map quotedField) ++ "\x7d"

/-- Entries on lines of their own. -/
def quotedText (rs : List Record) : String :=
  "\n".intercalate (rs.map quotedEntry)

/-- A field that can be written in quotes: braces of the value need not match. -/
structure QuotableField (key value : String) : Prop where
  key_ne : key.toList ≠ []
  key_word : ∀ c ∈ key.toList, Text.isWord c = true
  key_lower : Text.lower key = key
  value : ∀ c ∈ value.toList, c ≠ '"' ∧ c ≠ '\\' ∧ c ≠ '@'

theorem inQuotes_of_all : ∀ {cs : List Char}, (∀ c ∈ cs, c ≠ '"' ∧ c ≠ '\\') → InQuotes cs
  | [], _ => .nil
  | c :: cs, h => by
    obtain ⟨⟨hq, hb⟩, hcs⟩ := List.forall_mem_cons.mp h
    exact .plain hq hb (inQuotes_of_all hcs)

theorem QuotableField.inQuotes {key value : String} (h : QuotableField key value) :
    InQuotes value.toList :=
  inQuotes_of_all fun c hc => ⟨(h.value c hc).1, (h.value c hc).2.1⟩

/-- **A record that can be written with its values in quotes.** -/
structure Quotable (r : Record) : Prop where
  type_ne : r.entryType.toList ≠ []
  type_word : ∀ c ∈ r.entryType.toList, Text.isWord c = true
  key_ne : r.citeKey.toList ≠ []
  key_char : ∀ c ∈ r.citeKey.toList, isKeyChar c = true
  key_trimmed : Text.IsTrimmed r.citeKey.toList
  nodup : r.fields.keys.Nodup
  fields : ∀ f ∈ r.fields, QuotableField f.1 f.2

/-! ## Character by character -/

/-- A field behind a blank, with `tail` behind. -/
def quotedFieldChars (k v tail : List Char) : List Char :=
  ' ' :: (k ++ ' ' :: '=' :: ' ' :: '"' :: (v ++ '"' :: tail))

/-- What stands between the comma of a header and the closing brace. -/
def quotedBodyChars : List (String × String) → List Char
  | [] => [' ']
  | [(k, v)] => quotedFieldChars k.toList v.toList []
  | (k, v) :: f :: fs =>
    quotedFieldChars k.toList v.toList (',' :: quotedBodyChars (f :: fs))

/-- An entry with `tail` behind. -/
def quotedChars (r : Record) (tail : List Char) : List Char :=
  '@' :: (r.entryType.toList ++ '\x7b' :: (r.citeKey.toList ++ ',' ::
    (quotedBodyChars r.fields ++ '\x7d' :: tail)))

/-- Entries, each behind a line end, with `tail` behind. -/
def moreChars (tail : List Char) : List Record → List Char
  | [] => tail
  | r :: rs => '\n' :: quotedChars r (moreChars tail rs)

/-- Entries on lines of their own, with `tail` behind. -/
def linesChars (tail : List Char) : List Record → List Char
  | [] => tail
  | r :: rs => quotedChars r (moreChars tail rs)

theorem toList_quotedField (k v : String) (tail : List Char) :
    ' ' :: ((quotedField (k, v)).toList ++ tail) =
      quotedFieldChars k.toList v.toList tail := by
  simp [quotedField, quotedFieldChars]

theorem quotedFieldChars_append (k v tail more : List Char) :
    quotedFieldChars k v tail ++ more = quotedFieldChars k v (tail ++ more) := by
  simp [quotedFieldChars]

theorem toList_quotedFields : ∀ fs : List (String × String),
    ' ' :: (", ".intercalate (fs.map quotedField)).toList = quotedBodyChars fs
  | [] => rfl
  | [(k, v)] => by
    rw [List.map_cons, List.map_nil, String.intercalate_singleton, quotedBodyChars,
      ← toList_quotedField, List.append_nil]
  | (k, v) :: f :: fs => by
    have ih := toList_quotedFields (f :: fs)
    rw [List.map_cons] at ih
    rw [List.map_cons, List.map_cons, String.intercalate_cons_cons, String.toList_append,
      String.toList_append, quotedBodyChars, ← ih, ← toList_quotedField, List.append_assoc]
    rfl

theorem toList_quotedEntry (r : Record) (tail : List Char) :
    (quotedEntry r).toList ++ tail = quotedChars r tail := by
  unfold quotedEntry quotedChars
  rw [← toList_quotedFields]
  simp

theorem toList_quotedText (tail : List Char) : ∀ rs : List Record,
    (quotedText rs).toList ++ tail = linesChars tail rs
  | [] => rfl
  | [r] => by
    rw [quotedText, List.map_cons, List.map_nil, String.intercalate_singleton, toList_quotedEntry]
    rfl
  | r :: s :: rs => by
    have ih := toList_quotedText tail (s :: rs)
    rw [quotedText, List.map_cons] at ih
    rw [quotedText, List.map_cons, List.map_cons, String.intercalate_cons_cons,
      String.toList_append, String.toList_append, List.append_assoc, List.append_assoc, ih,
      toList_quotedEntry]
    rfl

/-! ## Open braces -/

/-- The braces that are open behind a text, `h` of which are open before it; a closing brace counts
for nothing if none is open. -/
def height (h : Nat) (cs : List Char) : Nat :=
  cs.foldl (fun h c => if c = '\x7b' then h + 1 else if c = '\x7d' then h - 1 else h) h

/-- The braces that are open behind the values of fields. -/
def heightBehind (h : Nat) (fs : List (String × String)) : Nat :=
  fs.foldl (fun h f => height h f.2.toList) h

/-- Between values the search takes itself to be within quotes if braces are open. -/
def isQuotedAt (h : Nat) : Bool :=
  h != 0

/-- Within quotes a brace that closes nothing is passed over. -/
theorem crosses_within (h : Nat) {c : Char} (hq : c ≠ '"') (hb : c ≠ '\\') :
    Crosses h true [c] (if c = '\x7b' then h + 1 else if c = '\x7d' then h - 1 else h) true := by
  by_cases ho : c = '\x7b'
  · rw [if_pos ho, ho]
    exact crosses_open h true
  rw [if_neg ho]
  by_cases hcl : c = '\x7d'
  · rw [if_pos hcl, hcl]
    cases h with
    | zero =>
      intro rest
      rw [List.singleton_append, closeChunk_zero (by decide) true rest (by decide),
        if_neg (by decide), if_neg (by decide)]
    | succ h => exact crosses_close h true
  · rw [if_neg hcl]
    have hplain : isPlain c = true := by simp [isPlain, ho, hcl]
    exact crosses_unquoted h true hplain hb hq

theorem crosses_quoted (h : Nat) : ∀ {v : List Char},
    (∀ c ∈ v, c ≠ '"' ∧ c ≠ '\\' ∧ c ≠ '@') → Crosses h true v (height h v) true
  | [], _ => Crosses.refl h true
  | c :: cs, hv => by
    obtain ⟨⟨hq, hb, -⟩, hcs⟩ := List.forall_mem_cons.mp hv
    exact (crosses_within h hq hb).cons (crosses_quoted _ hcs)

theorem crosses_openQuote (h : Nat) : Crosses h (isQuotedAt h) ['"'] h true := by
  cases h with
  | zero =>
    intro rest
    rw [List.singleton_append, closeChunk_zero (by decide) _ rest (by decide), if_neg (by decide),
      if_pos rfl]
    rfl
  | succ h => exact crosses_plain h true (by decide) (by decide)

theorem crosses_closeQuote (h : Nat) : Crosses h true ['"'] h (isQuotedAt h) := by
  cases h with
  | zero =>
    intro rest
    rw [List.singleton_append, closeChunk_zero (by decide) _ rest (by decide), if_neg (by decide),
      if_pos rfl]
    rfl
  | succ h => exact crosses_plain h true (by decide) (by decide)

theorem crosses_quotedFieldChars {k v : String} (hf : QuotableField k v) (h : Nat)
    {tail : List Char} {h' : Nat} {q' : Bool}
    (htail : Crosses (height h v.toList) (isQuotedAt (height h v.toList)) tail h' q') :
    Crosses h (isQuotedAt h) (quotedFieldChars k.toList v.toList tail) h' q' := by
  have hblank : Crosses h (isQuotedAt h) [' '] h (isQuotedAt h) := crosses_all _ _ (by decide)
  have hequals : Crosses h (isQuotedAt h) [' ', '=', ' '] h (isQuotedAt h) :=
    crosses_all _ _ (by decide)
  have hvalue := (crosses_openQuote h).trans ((crosses_quoted h hf.value).trans
    ((crosses_closeQuote _).trans htail))
  exact hblank.trans ((crosses_words _ _ hf.key_word).trans (hequals.trans hvalue))

/-- **The braces that are open behind an entry** are those that its values leave open. -/
theorem crosses_quotedBody (h : Nat) : ∀ {fs : List (String × String)},
    (∀ f ∈ fs, QuotableField f.1 f.2) → Crosses h (isQuotedAt h) (quotedBodyChars fs)
      (heightBehind h fs) (isQuotedAt (heightBehind h fs))
  | [], _ => crosses_all _ _ (by decide)
  | [(k, v)], hf => by
    exact crosses_quotedFieldChars (hf (k, v) List.mem_cons_self) h (Crosses.refl _ _)
  | (k, v) :: f :: fs, hf => by
    have hcomma := crosses_all (height h v.toList) (isQuotedAt (height h v.toList))
      (show ∀ c ∈ [','], isPlain c = true ∧ c ≠ '\\' ∧ c ≠ '"' by decide)
    exact crosses_quotedFieldChars (hf (k, v) List.mem_cons_self) h (hcomma.trans
      (crosses_quotedBody _ fun f' hf' => hf f' (List.mem_cons_of_mem _ hf')))

/-- The brace that closes an entry and the one that opens the next cancel out. -/
theorem crosses_nextHeader (h : Nat) {r : Record} (hr : Quotable r) :
    Crosses (h + 1) true ('\x7d' :: '\n' :: '@' :: (r.entryType.toList ++ '\x7b' ::
      (r.citeKey.toList ++ [',']))) (h + 1) true := by
  have hgap : Crosses h true ['\n', '@'] h true := crosses_all _ _ (by decide)
  have hkey := crosses_key h true fun c hc => isPlain_of_isKeyChar (hr.key_char c hc)
  exact (crosses_close h true).trans (hgap.trans ((crosses_words h true hr.type_word).trans
    ((crosses_open h true).trans hkey)))

/-! ## Header and fields -/

theorem header?_quotedChars {r : Record} (hr : Quotable r) (after : List Char) :
    header? (quotedChars r after) = some (⟨r.entryType.toList, r.citeKey.toList⟩,
      quotedBodyChars r.fields ++ '\x7d' :: after) :=
  header?_opened hr.type_ne hr.type_word hr.key_ne hr.key_char hr.key_trimmed _

theorem not_mem_quotedFieldChars {k v : String} (hf : QuotableField k v) {after : List Char}
    (hafter : '@' ∉ after) : '@' ∉ quotedFieldChars k.toList v.toList after := by
  have hk : '@' ∉ k.toList := fun h => absurd (hf.key_word '@' h) (by decide)
  have hv : '@' ∉ v.toList := fun h => (hf.value '@' h).2.2 rfl
  simp [quotedFieldChars, hk, hv, hafter]

theorem not_mem_quotedBodyChars : ∀ {fs : List (String × String)},
    (∀ f ∈ fs, QuotableField f.1 f.2) → '@' ∉ quotedBodyChars fs
  | [], _ => by decide
  | [(k, v)], h => not_mem_quotedFieldChars (h (k, v) List.mem_cons_self) List.not_mem_nil
  | (k, v) :: f :: fs, h => by
    have hfs := not_mem_quotedBodyChars fun f' hf' => h f' (List.mem_cons_of_mem _ hf')
    refine not_mem_quotedFieldChars (h (k, v) List.mem_cons_self) ?_
    rw [List.mem_cons, not_or]
    exact ⟨by decide, hfs⟩

theorem untilHeader_of_not_mem : ∀ {cs : List Char}, '@' ∉ cs → untilHeader cs = (cs, [])
  | [], _ => rfl
  | c :: cs, h => by
    rw [List.mem_cons, not_or] at h
    have hnone : header? (c :: cs) = none := header?_cons_ne (Ne.symm h.1) cs
    rw [untilHeader, hnone, untilHeader_of_not_mem h.2]
    rfl

/-- **A field in quotes is read as it was written**, and reading goes on behind its comma. -/
theorem fieldMatchesFrom_quotedFieldChars {k v : String} (h : QuotableField k v) (n start : Nat)
    (tail : List Char) :
    ∃ next, (fieldMatchesFrom (n + 2) start (quotedFieldChars k.toList v.toList tail)).map
      FieldMatch.entry =
      (k, v) :: (fieldMatchesFrom n next (afterComma tail)).map FieldMatch.entry := by
  have hassigned : assigned? (' ' :: '=' :: ' ' :: '"' :: (v.toList ++ '"' :: tail)) =
      some ('"' :: v.toList ++ ['"'], afterComma tail) :=
    assigned?_of_value? [' '] [' '] (by decide) (by decide) (by decide) (value?_quoted h.inQuotes tail)
  obtain ⟨next, e⟩ := fieldMatchesFrom_key h.key_ne h.key_word (by decide) hassigned n (start + 1)
  refine ⟨next, ?_⟩
  unfold quotedFieldChars
  rw [fieldMatchesFrom_skip (by decide), e, List.map_cons, FieldMatch.entry,
    stripDelimiters_enclosed (.inr ⟨rfl, rfl⟩), String.ofList_toList, String.ofList_toList,
    h.key_lower]

theorem fieldMatchesFrom_of_no_word : ∀ {cs : List Char}, (∀ c ∈ cs, Text.isWord c = false) →
    ∀ n start, fieldMatchesFrom n start cs = []
  | [], _, n, start => fieldMatchesFrom_nil n start
  | _ :: _, _, 0, _ => rfl
  | c :: cs, h, n + 1, start => by
    obtain ⟨hc, hcs⟩ := List.forall_mem_cons.mp h
    rw [fieldMatchesFrom_skip hc, fieldMatchesFrom_of_no_word hcs]

/-- Braces and line ends behind the fields are no fields. -/
theorem entries_afterComma {rest : List Char} (h : ∀ c ∈ rest, c = '\x7d' ∨ c = '\n')
    (n start : Nat) : fieldMatchesFrom n start (afterComma rest) = [] := by
  have hsub : rest.dropWhile Text.isBlank ⊆ rest := (List.dropWhile_suffix _).subset
  have hcomma : afterComma rest = rest.dropWhile Text.isBlank := by
    refine afterComma_of_ne fun tail e => ?_
    have hmem : ',' ∈ rest := hsub (e ▸ List.mem_cons_self)
    exact absurd (h ',' hmem) (by decide)
  rw [hcomma]
  refine fieldMatchesFrom_of_no_word (fun c hc => ?_) n start
  rcases h c (hsub hc) with rfl | rfl <;> decide

theorem entries_quotedBody {rest : List Char} (hrest : ∀ c ∈ rest, c = '\x7d' ∨ c = '\n') :
    ∀ {fs : List (String × String)}, (∀ f ∈ fs, QuotableField f.1 f.2) →
      ∀ {n : Nat} (start : Nat), (quotedBodyChars fs).length ≤ n →
        (fieldMatchesFrom n start (quotedBodyChars fs ++ rest)).map FieldMatch.entry = fs
  | [], _, n, start, hn => by
    have hword : ∀ c ∈ ' ' :: rest, Text.isWord c = false := by
      refine List.forall_mem_cons.mpr ⟨by decide, fun c hc => ?_⟩
      rcases hrest c hc with rfl | rfl <;> decide
    exact congrArg (List.map FieldMatch.entry) (fieldMatchesFrom_of_no_word hword n start)
  | [(k, v)], h, n, start, hn => by
    obtain ⟨m, rfl⟩ : ∃ m, n = m + 2 := ⟨n - 2, by
      simp only [quotedBodyChars, quotedFieldChars, List.length_cons, List.length_append] at hn
      omega⟩
    obtain ⟨next, e⟩ := fieldMatchesFrom_quotedFieldChars (h (k, v) List.mem_cons_self) m start
      rest
    rw [quotedBodyChars, quotedFieldChars_append, List.nil_append, e, entries_afterComma hrest,
      List.map_nil]
  | (k, v) :: f :: fs, h, n, start, hn => by
    simp only [quotedBodyChars, quotedFieldChars, List.length_cons, List.length_append] at hn
    obtain ⟨m, rfl⟩ : ∃ m, n = m + 2 := ⟨n - 2, by omega⟩
    obtain ⟨next, e⟩ := fieldMatchesFrom_quotedFieldChars (h (k, v) List.mem_cons_self) m start
      (',' :: (quotedBodyChars (f :: fs) ++ rest))
    have hcomma : afterComma (',' :: (quotedBodyChars (f :: fs) ++ rest)) =
        quotedBodyChars (f :: fs) ++ rest :=
      afterComma_of_comma (List.dropWhile_cons_of_neg (by decide))
    rw [quotedBodyChars, quotedFieldChars_append, List.cons_append, e, hcomma,
      entries_quotedBody hrest (fun f' hf' => h f' (List.mem_cons_of_mem _ hf')) next (by omega)]

/-- **The fields of an entry in quotes** are the fields that were written, whether its closing brace
is taken for part of the body or not. -/
theorem record_quotedBody {r : Record} (h : Quotable r) {rest : List Char}
    (hrest : ∀ c ∈ rest, c = '\x7d' ∨ c = '\n') :
    (Header.mk r.entryType.toList r.citeKey.toList).record (quotedBodyChars r.fields ++ rest) =
      r := by
  have hn : (quotedBodyChars r.fields).length ≤ (quotedBodyChars r.fields ++ rest).length := by
    rw [List.length_append]
    omega
  unfold Header.record parseFields fieldMatches
  rw [entries_quotedBody hrest h.fields 0 hn, Assoc.ofList_of_nodup h.nodup, String.ofList_toList,
    String.ofList_toList]

end CiteSieve.Bibtex
