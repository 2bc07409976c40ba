import CiteSieve.Bibtex.Printer
import CiteSieve.Proofs.Bibtex.Append

/-!
# Written entries, character by character

The characters that the printer writes (`fieldChars`, `bodyChars`, `entryChars`, `exportChars`),
and how the scanners go through them.

Results:
* `toList_formatAll`: the characters of an export.
* `header?_entryChars`, `bodyOf_bodyChars`: the header and the body of a written entry.
* `standsAlone_exportChars`: an export stands on its own behind any text.
-/

namespace CiteSieve.Bibtex

/-! ## The characters -/

/-- What stands behind the key of a field: the value in braces and `tail`. -/
def assignedChars (v tail : List Char) : List Char :=
  ' ' :: '=' :: ' ' :: '\x7b' :: (v ++ '\x7d' :: tail)

/-- A field on its line, with `tail` behind. -/
def fieldChars (k v tail : List Char) : List Char :=
  '\n' :: ' ' :: ' ' :: (k ++ assignedChars v tail)

/-- What stands between the comma of a header and the closing brace. -/
def bodyChars : List (String × String) → List Char
  | [] => ['\n']
  | [(k, v)] => fieldChars k.toList v.toList ['\n']
  | (k, v) :: f :: fs => fieldChars k.toList v.toList (',' :: bodyChars (f :: fs))

/-- What stands behind the type of an entry. -/
def openedChars (r : Record) : List Char :=
  '\x7b' :: (r.citeKey.toList ++ ',' :: (bodyChars r.fields ++ ['\x7d']))

/-- An entry. -/
def entryChars (r : Record) : List Char :=
  '@' :: (r.entryType.toList ++ openedChars r)

/-- Entries with a blank line between them. -/
def exportChars : List Record → List Char
  | [] => []
  | [r] => entryChars r
  | r :: s :: rs => entryChars r ++ '\n' :: '\n' :: exportChars (s :: rs)

theorem toList_formatField (k v : String) :
    '\n' :: (formatField k v).toList = fieldChars k.toList v.toList [] := by
  simp [formatField, fieldChars, assignedChars]

theorem fieldChars_append (k v tail more : List Char) :
    fieldChars k v tail ++ more = fieldChars k v (tail ++ more) := by
  simp [fieldChars, assignedChars]

/-- The fields as they are joined, with the line ends around them. -/
theorem toList_fields : ∀ (f : String × String) (fs : List (String × String)),
    '\n' :: ((",\n".intercalate ((f :: fs).map fun (k, v) => formatField k v)).toList ++ ['\n']) =
      bodyChars (f :: fs)
  | (k, v), [] => by
    rw [List.map_cons, List.map_nil, String.intercalate_singleton, ← List.cons_append,
      toList_formatField, fieldChars_append, bodyChars, List.nil_append]
  | (k, v), f :: fs => by
    have ih := toList_fields f fs
    rw [List.map_cons] at ih
    rw [List.map_cons, List.map_cons, String.intercalate_cons_cons, String.toList_append,
      String.toList_append, bodyChars, ← ih, List.append_assoc, List.append_assoc,
      ← List.cons_append, toList_formatField, fieldChars_append]
    rfl

theorem toList_format (r : Record) : (format r).toList = entryChars r := by
  unfold format entryChars openedChars
  cases hf : r.fields with
  | nil => simp [bodyChars]
  | cons f fs =>
    rw [← toList_fields f fs]
    simp

theorem toList_formatAll : ∀ rs, (formatAll rs).toList = exportChars rs
  | [] => by simp [formatAll, exportChars]
  | [r] => by
    rw [formatAll, List.map_cons, List.map_nil, String.intercalate_singleton, toList_format,
      exportChars]
  | r :: s :: rs => by
    have ih := toList_formatAll (s :: rs)
    rw [formatAll, List.map_cons] at ih
    rw [formatAll, List.map_cons, List.map_cons, String.intercalate_cons_cons,
      String.toList_append, String.toList_append, toList_format, ih, exportChars,
      List.append_assoc]
    rfl

/-! ## Crossing an export -/

theorem isPlain_of_isWord {c : Char} (hc : Text.isWord c = true) : isPlain c = true :=
  isPlain_of_ne (Text.ne_of_isWord hc (by decide)) (Text.ne_of_isWord hc (by decide))

theorem isPlain_of_isKeyChar {c : Char} (hc : isKeyChar c = true) : isPlain c = true := by
  simp only [isKeyChar, Bool.and_eq_true] at hc
  simp only [isPlain, Bool.and_eq_true]
  exact ⟨hc.1.2, hc.2⟩

theorem crosses_words (d : Nat) (q : Bool) {cs : List Char}
    (h : ∀ c ∈ cs, Text.isWord c = true) : Crosses d q cs d q :=
  crosses_all d q fun c hc =>
    ⟨isPlain_of_isWord (h c hc), Text.ne_of_isWord (h c hc) (by decide),
      Text.ne_of_isWord (h c hc) (by decide)⟩

theorem crosses_fieldChars (d : Nat) (q : Bool) {k v : String} (h : WritableField k v)
    {tail : List Char} (ht : Crosses d q tail d q) :
    Crosses d q (fieldChars k.toList v.toList tail) d q := by
  have hindent : Crosses d q ['\n', ' ', ' '] d q := crosses_all d q (by decide)
  have hequals : Crosses d q [' ', '=', ' '] d q := crosses_all d q (by decide)
  have hvalue := (crosses_open d q).trans ((crosses_value d q h.value).trans
    ((crosses_close d q).trans ht))
  exact hindent.trans ((crosses_words d q h.key_word).trans (hequals.trans hvalue))

theorem crosses_bodyChars (d : Nat) (q : Bool) : ∀ {fs : List (String × String)},
    (∀ f ∈ fs, WritableField f.1 f.2) → Crosses d q (bodyChars fs) d q
  | [], _ => crosses_all d q (by decide)
  | [(k, v)], h => by
    exact crosses_fieldChars d q (h (k, v) List.mem_cons_self) (crosses_all d q (by decide))
  | (k, v) :: f :: fs, h => by
    have hcomma : Crosses d q [','] d q := crosses_all d q (by decide)
    exact crosses_fieldChars d q (h (k, v) List.mem_cons_self)
      (hcomma.trans (crosses_bodyChars d q fun f' hf' => h f' (List.mem_cons_of_mem _ hf')))

/-- **A written entry is crossed whole**, in whatever state the search reaches it: its braces
balance, and its quotes stand below the outermost depth. -/
theorem crosses_entryChars_tail (d : Nat) (q : Bool) {r : Record} (h : Writable r) :
    Crosses d q (r.entryType.toList ++ openedChars r) d q := by
  have hkey := crosses_key d q fun c hc => isPlain_of_isKeyChar (h.key_char c hc)
  have hbody := (crosses_bodyChars (d + 1) q h.fields).trans (crosses_close d q)
  have hopened := (crosses_open d q).trans (hkey.trans hbody)
  have e : openedChars r = ['\x7b'] ++ (r.citeKey.toList ++ [','] ++
      (bodyChars r.fields ++ ['\x7d'])) := by
    simp [openedChars]
  rw [e]
  exact (crosses_words d q h.type_word).trans hopened

theorem exportChars_cons : ∀ (r : Record) (rs : List Record),
    exportChars (r :: rs) = '@' :: (exportChars (r :: rs)).tail
  | _, [] => rfl
  | _, _ :: _ => rfl

/-- **An export is crossed whole**, also without its first character. -/
theorem crosses_exportChars_tail (d : Nat) (q : Bool) : ∀ {rs : List Record},
    (∀ r ∈ rs, Writable r) → Crosses d q (exportChars rs).tail d q
  | [], _ => Crosses.refl d q
  | [r], h => crosses_entryChars_tail d q (h r List.mem_cons_self)
  | r :: s :: rs, h => by
    have hgap : Crosses d q ['\n', '\n', '@'] d q := crosses_all d q (by decide)
    have hrest := crosses_exportChars_tail d q fun r' hr' => h r' (List.mem_cons_of_mem r hr')
    rw [exportChars, exportChars_cons]
    exact (crosses_entryChars_tail d q (h r List.mem_cons_self)).trans (hgap.trans hrest)

theorem crosses_exportChars (d : Nat) (q : Bool) {r : Record} {rs : List Record}
    (h : ∀ r' ∈ r :: rs, Writable r') : Crosses d q (exportChars (r :: rs)) d q := by
  have hat : Crosses d q ['@'] d q := crosses_all d q (by decide)
  rw [exportChars_cons]
  exact hat.trans (crosses_exportChars_tail d q h)

/-! ## Header and body of an entry -/

theorem dropWhile_append_of_all {p : Char → Bool} {cs : List Char} (h : ∀ c ∈ cs, p c = true)
    {m : Char} (hm : p m = false) (tail : List Char) :
    (cs ++ m :: tail).dropWhile p = m :: tail := by
  rw [List.dropWhile_append_of_pos h, List.dropWhile_cons_of_neg (by simp [hm])]

theorem takeWhile_append_of_all {p : Char → Bool} {cs : List Char} (h : ∀ c ∈ cs, p c = true)
    {m : Char} (hm : p m = false) (tail : List Char) :
    (cs ++ m :: tail).takeWhile p = cs := by
  rw [List.takeWhile_append_of_pos h, List.takeWhile_cons_of_neg (by simp [hm]), List.append_nil]

/-- The header of a written entry. -/
def headerOf (r : Record) : Header :=
  ⟨r.entryType.toList, r.citeKey.toList⟩

/-- A type and a key with what belongs around them are a header. -/
theorem header?_opened {type key : List Char} (htype : type ≠ [])
    (hword : ∀ c ∈ type, Text.isWord c = true) (hkey : key ≠ [])
    (hchar : ∀ c ∈ key, isKeyChar c = true) (htrimmed : Text.IsTrimmed key) (tail : List Char) :
    header? ('@' :: (type ++ '\x7b' :: (key ++ ',' :: tail))) = some (⟨type, key⟩, tail) := by
  rw [header?_at, dropWhile_append_of_all hword (by decide),
    takeWhile_append_of_all hword (by decide), List.dropWhile_cons_of_neg (by decide)]
  simp only [headerKey?]
  rw [dropWhile_append_of_all hchar (by decide), takeWhile_append_of_all hchar (by decide)]
  simp only [htype, hkey, or_self, if_false, Text.trimChars_eq_self htrimmed]

theorem header?_entryChars {r : Record} (h : Writable r) (tail : List Char) :
    header? (entryChars r ++ tail) =
      some (headerOf r, bodyChars r.fields ++ '\x7d' :: tail) := by
  have e : entryChars r ++ tail = '@' :: (r.entryType.toList ++ '\x7b' :: (r.citeKey.toList ++
      ',' :: (bodyChars r.fields ++ '\x7d' :: tail))) := by
    simp [entryChars, openedChars]
  rw [e]
  exact header?_opened h.type_ne h.type_word h.key_ne h.key_char h.key_trimmed _

/-- **The body of a written entry ends at its last brace.** -/
theorem bodyOf_bodyChars {r : Record} (h : Writable r) (tail : List Char) :
    bodyOf (bodyChars r.fields ++ '\x7d' :: tail) = (bodyChars r.fields, tail) := by
  unfold bodyOf
  rw [crosses_bodyChars 0 false h.fields, closeChunk_close, Option.map_some, Option.getD_some]
  simp only [behind, List.append_nil]

theorem exportChars_eq_append (r : Record) : ∀ rs, ∃ tail,
    exportChars (r :: rs) = entryChars r ++ tail
  | [] => ⟨[], (List.append_nil _).symm⟩
  | s :: rs => ⟨'\n' :: '\n' :: exportChars (s :: rs), rfl⟩

/-- **An export stands on its own** behind any text. -/
theorem standsAlone_exportChars {r : Record} {rs : List Record}
    (h : ∀ r' ∈ r :: rs, Writable r') : StandsAlone (exportChars (r :: rs)) where
  isHeader := by
    obtain ⟨tail, e⟩ := exportChars_eq_append r rs
    rw [e, header?_entryChars (h r List.mem_cons_self)]
    rfl
  neverCloses d q := (crosses_exportChars d q h).eq_none
  tail_neverCloses d q := (crosses_exportChars_tail d q h).eq_none

end CiteSieve.Bibtex
