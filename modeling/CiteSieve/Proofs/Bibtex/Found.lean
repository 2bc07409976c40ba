import CiteSieve.Bibtex.Scan
import CiteSieve.Proofs.Bibtex.Fields
import CiteSieve.Proofs.Text.Lowered
import CiteSieve.Proofs.Text.Trimmed

/-!
# Records that a text can hold

What every record has that was found in a text, whatever the text: a type, a trimmed key that
fits into a header, and fields with keys in lower case, each once. A key may be empty, and a quoted
value may hold anything; but where a text has neither quotes nor backslashes, its values were
braced or are numbers, and braces can hold them again.

* `header?_spec`, `value?_spec`, `parseFields_spec`: what the readers find, and where they go on.
* `found_of_mem_scanFrom`: every record of a scan is such a record.
-/

namespace CiteSieve.Bibtex

/-- **A record that a text can hold.** -/
structure Found (r : Record) : Prop where
  type_ne : r.entryType.toList ≠ []
  type_word : ∀ c ∈ r.entryType.toList, Text.isWord c = true
  key_char : ∀ c ∈ r.citeKey.toList, isKeyChar c = true
  key_trimmed : Text.IsTrimmed r.citeKey.toList
  nodup : r.fields.keys.Nodup
  field_key_ne : ∀ f ∈ r.fields, f.1.toList ≠ []
  field_key_lower : ∀ f ∈ r.fields, Text.lower f.1 = f.1

/-- Neither quotes nor backslashes. -/
def IsUnmarked (cs : List Char) : Prop :=
  ∀ c ∈ cs, c ≠ '"' ∧ c ≠ '\\'

theorem IsUnmarked.of_subset {as bs : List Char} (h : as ⊆ bs) (hbs : IsUnmarked bs) :
    IsUnmarked as :=
  fun c hc => hbs c (h hc)

/-! ## Headers -/

theorem of_mem_takeWhile {p : Char → Bool} {cs : List Char} {c : Char}
    (h : c ∈ cs.takeWhile p) : p c = true :=
  List.all_eq_true.mp List.all_takeWhile c h

theorem header?_spec {cs rest : List Char} {h : Header} (e : header? cs = some (h, rest)) :
    h.entryType ≠ [] ∧ (∀ c ∈ h.entryType, Text.isWord c = true) ∧
      (∀ c ∈ h.citeKey, isKeyChar c = true) ∧ Text.IsTrimmed h.citeKey ∧ rest <:+ cs := by
  have hsuffix := header?_suffix e
  unfold header? at e
  split at e
  · rename_i cs
    dsimp only at e
    split at e
    · split at e
      · split at e
        · cases e
        · rename_i hne
          cases e
          exact ⟨fun htype => hne (.inl htype), fun c hc => of_mem_takeWhile hc,
            fun c hc => of_mem_takeWhile (Text.mem_of_mem_trimChars hc),
            Text.isTrimmed_trimChars _, hsuffix⟩
      · cases e
    · cases e
  · cases e

/-! ## Values -/

theorem groupText_of_plain : ∀ {g : List Char}, (∀ c ∈ g, isPlain c = true) → '\\' ∉ g →
    GroupText g
  | [], _, _ => .nil
  | c :: g, hplain, hmarks => by
    obtain ⟨hc, hg⟩ := List.forall_mem_cons.mp hplain
    exact .plain hc (List.ne_of_not_mem_cons hmarks).symm
      (groupText_of_plain hg (List.not_mem_of_not_mem_cons hmarks))

/-- What can stand in a group can stand in the value as well. -/
theorem GroupText.valueText {g : List Char} (h : GroupText g) : ValueText g := by
  induction h with
  | nil => exact .nil
  | plain hc hb _ ih => exact .plain hc hb ih
  | escaped _ _ ih => exact .escaped ih

/-- **What stood in quotes** holds no quote, unless a backslash is about. -/
theorem closeQuote_spec {cs v rest : List Char} (h : closeQuote cs = some (v, rest)) :
    cs = v ++ '"' :: rest ∧ ('\\' ∉ v → '"' ∉ v) := by
  fun_induction closeQuote cs generalizing v with
  | case1 => cases h
  | case2 => cases h
  | case3 c cs ih =>
    obtain ⟨⟨v', rest'⟩, hclose, he⟩ := Option.map_eq_some_iff.mp h
    cases he
    obtain ⟨rfl, -⟩ := ih hclose
    exact ⟨rfl, fun hmarks => absurd List.mem_cons_self hmarks⟩
  | case4 cs _ _ =>
    cases h
    exact ⟨rfl, fun _ => List.not_mem_nil⟩
  | case5 c cs _ _ hc ih =>
    obtain ⟨⟨v', rest'⟩, hclose, he⟩ := Option.map_eq_some_iff.mp h
    cases he
    obtain ⟨rfl, hquotes⟩ := ih hclose
    refine ⟨rfl, fun hmarks => List.not_mem_cons_of_ne_of_not_mem (Ne.symm hc) ?_⟩
    exact hquotes (List.not_mem_of_not_mem_cons hmarks)

/-- **What stood in braces** can stand in braces, unless a backslash is about. -/
theorem closeBraceWithin_spec {fuel : Nat} {cs v rest : List Char}
    (h : closeBraceWithin fuel cs = some (v, rest)) :
    cs = v ++ '\x7d' :: rest ∧ ('\\' ∉ v → ValueText v) := by
  fun_induction closeBraceWithin fuel cs generalizing v with
  | case1 fuel cs =>
    cases h
    exact ⟨rfl, fun _ => .nil⟩
  | case2 fuel cs behind hgroup _ ih =>
    obtain ⟨⟨v', rest'⟩, hclose, he⟩ := Option.map_eq_some_iff.mp h
    cases he
    obtain ⟨rfl, hvalue⟩ := ih hclose
    constructor
    · rw [List.cons_append, List.cons_append, List.append_assoc, List.cons_append, ← hgroup,
        List.takeWhile_append_dropWhile]
    · intro hmarks
      rw [List.cons_append] at hmarks
      have hgroup' := List.not_mem_of_not_mem_cons hmarks
      rw [List.mem_append, not_or] at hgroup'
      exact .group (groupText_of_plain (fun c hc => of_mem_takeWhile hc) hgroup'.1)
        (hvalue (List.not_mem_of_not_mem_cons hgroup'.2))
  | case3 => cases h
  | case4 fuel d ds v' rest' hclose _ _ _ ih =>
    cases h
    obtain ⟨rfl, -⟩ := ih hclose
    exact ⟨rfl, fun hmarks => absurd List.mem_cons_self hmarks⟩
  | case5 => cases h
  | case6 fuel d ds _ _ _ _ alone ih =>
    obtain ⟨⟨v', rest'⟩, hclose, he⟩ := Option.map_eq_some_iff.mp h
    cases he
    rw [(ih hclose).1]
    exact ⟨rfl, fun hmarks => absurd List.mem_cons_self hmarks⟩
  | case7 fuel c cs hclosing hopening alone _ =>
    rename_i ih
    obtain ⟨⟨v', rest'⟩, hclose, he⟩ := Option.map_eq_some_iff.mp h
    cases he
    obtain ⟨rfl, hvalue⟩ := ih hclose
    refine ⟨rfl, fun hmarks => ?_⟩
    exact .plain (isPlain_of_ne hopening hclosing) (List.ne_of_not_mem_cons hmarks).symm
      (hvalue (List.not_mem_of_not_mem_cons hmarks))
  | case8 => cases h

theorem ne_of_isDigit {c m : Char} (h : Text.isDigit c = true) (hm : Text.isDigit m = false) :
    c ≠ m := by
  rintro rfl
  rw [h] at hm
  cases hm

/-- **A value** was quoted or braced, or is a number. -/
inductive ReadValue : List Char → Prop
  | quoted {v : List Char} (hv : '\\' ∉ v → '"' ∉ v) : ReadValue ('"' :: v ++ ['"'])
  | braced {v : List Char} (hv : '\\' ∉ v → ValueText v) : ReadValue ('\x7b' :: v ++ ['\x7d'])
  | number {v : List Char} (hne : v ≠ []) (hv : ∀ c ∈ v, Text.isDigit c = true) : ReadValue v

theorem value?_spec {cs v rest : List Char} (h : value? cs = some (v, rest)) :
    cs = v ++ rest ∧ ReadValue v := by
  cases cs with
  | nil => cases h
  | cons c cs =>
    rw [value?] at h
    split at h
    · rename_i hquote
      obtain ⟨⟨v', rest'⟩, hclose, he⟩ := Option.map_eq_some_iff.mp h
      cases he
      obtain ⟨rfl, hquotes⟩ := closeQuote_spec hclose
      rw [hquote]
      exact ⟨by simp, .quoted hquotes⟩
    · split at h
      · rename_i hbrace
        obtain ⟨⟨v', rest'⟩, hclose, he⟩ := Option.map_eq_some_iff.mp h
        cases he
        obtain ⟨rfl, hvalue⟩ := closeBraceWithin_spec hclose
        rw [hbrace]
        exact ⟨by simp, .braced hvalue⟩
      · split at h
        · rename_i hdigit
          cases h
          refine ⟨?_, .number (List.cons_ne_nil c _) (List.forall_mem_cons.mpr ⟨hdigit, ?_⟩)⟩
          · rw [List.cons_append, List.takeWhile_append_dropWhile]
          · exact fun d hd => of_mem_takeWhile hd
        · cases h

theorem isPlain_of_isDigit {c : Char} (h : Text.isDigit c = true) : isPlain c = true :=
  isPlain_of_ne (ne_of_isDigit h (by decide)) (ne_of_isDigit h (by decide))

theorem stripDelimiters_of_isDigit {c : Char} (h : Text.isDigit c = true) (cs : List Char) :
    stripDelimiters (c :: cs) = c :: cs := by
  have hne : ∀ m, Text.isDigit m = false → ((c :: cs).head? == some m) = false := by
    intro m hm
    rw [List.head?_cons, beq_eq_false_iff_ne]
    exact fun he => ne_of_isDigit h hm (Option.some.inj he)
  unfold stripDelimiters
  refine if_neg ?_
  rintro ⟨-, hclosed⟩
  simp only [hne '\x7b' (by decide), hne '"' (by decide), Bool.false_and, Bool.false_eq_true,
    or_self] at hclosed

/-- **What a value holds** can stand in braces, unless it was quoted or a backslash is about. -/
theorem ReadValue.valueText {v : List Char} (hv : ReadValue v) (hmarks : IsUnmarked v) :
    ValueText (stripDelimiters v) := by
  cases hv with
  | quoted => exact absurd rfl (hmarks _ List.mem_cons_self).1
  | braced hv =>
    rw [stripDelimiters_braced]
    refine hv fun hb => ?_
    exact (hmarks '\\' (List.mem_append_left _ (List.mem_cons_of_mem _ hb))).2 rfl
  | number hne hv =>
    obtain ⟨c, cs, rfl⟩ := List.exists_cons_of_ne_nil hne
    rw [stripDelimiters_of_isDigit (hv c List.mem_cons_self)]
    refine (groupText_of_plain (fun d hd => isPlain_of_isDigit (hv d hd)) ?_).valueText
    exact fun hb => (hmarks _ hb).2 rfl

/-- May stand around a value. -/
def IsSeparator (c : Char) : Prop :=
  Text.isBlank c = true ∨ c = '=' ∨ c = ','

/-- **An assignment** is a value between separators. -/
theorem assigned?_spec {cs v rest : List Char} (h : assigned? cs = some (v, rest)) :
    ReadValue v ∧ ∃ sep tail, cs = sep ++ (v ++ (tail ++ rest)) ∧
      (∀ c ∈ sep, IsSeparator c) ∧ ∀ c ∈ tail, IsSeparator c := by
  have hblanks : ∀ cs : List Char, ∀ c ∈ cs.takeWhile Text.isBlank, IsSeparator c :=
    fun cs c hc => .inl (of_mem_takeWhile hc)
  unfold assigned? at h
  split at h
  · rename_i r hr
    obtain ⟨⟨v', rest'⟩, hvalue, he⟩ := Option.map_eq_some_iff.mp h
    obtain ⟨hsplit, hread⟩ := value?_spec hvalue
    -- The separators before the value are the same whether a comma follows it or not.
    have hcs : cs = (cs.takeWhile Text.isBlank ++ '=' :: r.takeWhile Text.isBlank) ++
        (v' ++ rest') := by
      rw [← hsplit, List.append_assoc, List.cons_append, List.takeWhile_append_dropWhile, ← hr,
        List.takeWhile_append_dropWhile]
    have hsep : ∀ c ∈ cs.takeWhile Text.isBlank ++ '=' :: r.takeWhile Text.isBlank,
        IsSeparator c :=
      List.forall_mem_append.mpr ⟨hblanks cs,
        List.forall_mem_cons.mpr ⟨.inr (.inl rfl), hblanks r⟩⟩
    have hrest' : rest' = rest'.takeWhile Text.isBlank ++ rest'.dropWhile Text.isBlank :=
      List.takeWhile_append_dropWhile.symm
    dsimp only at he
    split at he
    · rename_i behind hcomma
      cases he
      rw [hcomma, ← List.singleton_append, ← List.append_assoc] at hrest'
      refine ⟨hread, _, rest'.takeWhile Text.isBlank ++ [','],
        hcs.trans (congrArg (fun e => _ ++ (v ++ e)) hrest'), hsep, ?_⟩
      exact List.forall_mem_append.mpr
        ⟨hblanks rest', List.forall_mem_singleton.mpr (.inr (.inr rfl))⟩
    · cases he
      exact ⟨hread, _, rest'.takeWhile Text.isBlank,
        hcs.trans (congrArg (fun e => _ ++ (v ++ e)) hrest'), hsep, hblanks rest'⟩
  · cases h

/-! ## Fields -/

/-- The field has a key, and braces can hold its value unless `cs` quotes or hides something. -/
structure FieldMatch.FoundIn (cs : List Char) (m : FieldMatch) : Prop where
  key_ne : m.key ≠ []
  value : IsUnmarked cs → ValueText (stripDelimiters m.value)

theorem FieldMatch.FoundIn.of_suffix {as bs : List Char} {m : FieldMatch} (h : as <:+ bs)
    (hm : m.FoundIn as) : m.FoundIn bs :=
  ⟨hm.key_ne, fun hmarks => hm.value (hmarks.of_subset h.subset)⟩

theorem fieldMatchesFrom_spec (fuel start : Nat) (cs : List Char) :
    ∀ m ∈ fieldMatchesFrom fuel start cs, m.FoundIn cs := by
  fun_induction fieldMatchesFrom fuel start cs with
  | case1 fuel start c cs hword key after v rest hassigned ih =>
    obtain ⟨hread, sep, tail, hsplit, -⟩ := assigned?_spec hassigned
    have hafter : after <:+ c :: cs := (List.dropWhile_suffix _).trans (List.suffix_cons c cs)
    have hvalue : v ⊆ after := by
      rw [hsplit]
      exact List.subset_append_of_subset_right _ (List.subset_append_left _ _)
    have hrest : rest <:+ after := by
      rw [hsplit, ← List.append_assoc, ← List.append_assoc]
      exact List.suffix_append _ _
    refine List.forall_mem_cons.mpr ⟨?_, fun m hm => (ih m hm).of_suffix (hrest.trans hafter)⟩
    exact .of_suffix hafter ⟨List.cons_ne_nil c _, fun hmarks =>
      hread.valueText (hmarks.of_subset hvalue)⟩
  | case2 fuel start c cs hword key after hassigned ih =>
    have hafter : after <:+ c :: cs := (List.dropWhile_suffix _).trans (List.suffix_cons c cs)
    exact fun m hm => (ih m hm).of_suffix hafter
  | case3 fuel start c cs hword ih =>
    exact fun m hm => (ih m hm).of_suffix (List.suffix_cons c cs)
  | case4 => exact fun m hm => absurd hm List.not_mem_nil

theorem parseFields_spec (cs : List Char) : (parseFields cs).keys.Nodup ∧
    ∀ f ∈ parseFields cs, f.1.toList ≠ [] ∧ Text.lower f.1 = f.1 ∧
      (IsUnmarked cs → ValueText f.2.toList) := by
  refine ⟨Assoc.nodup_keys_ofList _, fun f hf => ?_⟩
  obtain ⟨m, hm, rfl⟩ := List.mem_map.mp (Assoc.mem_of_mem_ofList hf)
  obtain ⟨hkey, hvalue⟩ := fieldMatchesFrom_spec _ 0 cs m hm
  refine ⟨Text.toList_lower_ne_nil ?_, Text.lower_lower _, ?_⟩
  · rwa [String.toList_ofList]
  · rwa [FieldMatch.entry, String.toList_ofList]

/-! ## Scans -/

theorem found_record {cs rest : List Char} {h : Header} (e : header? cs = some (h, rest))
    (body : List Char) : Found (h.record body) := by
  obtain ⟨hne, hword, hchar, htrimmed, -⟩ := header?_spec e
  obtain ⟨hnodup, hfields⟩ := parseFields_spec body
  have htype : (h.record body).entryType.toList = h.entryType := String.toList_ofList
  have hkey : (h.record body).citeKey.toList = h.citeKey := String.toList_ofList
  exact {
    type_ne := htype ▸ hne
    type_word := htype ▸ hword
    key_char := hkey ▸ hchar
    key_trimmed := hkey ▸ htrimmed
    nodup := hnodup
    field_key_ne := fun f hf => (hfields f hf).1
    field_key_lower := fun f hf => (hfields f hf).2.1 }

/-- The body of an entry and what stands behind it are parts of the text. -/
theorem bodyOf_subset (cs : List Char) : (bodyOf cs).1 ⊆ cs ∧ (bodyOf cs).2 ⊆ cs := by
  unfold bodyOf
  cases h : closeChunk 0 false cs with
  | none =>
    rw [Option.getD_none]
    have hsplit : cs = (untilHeader cs).1 ++ (untilHeader cs).2 := (untilHeader_append cs).symm
    constructor
    · exact fun c hc => hsplit ▸ List.mem_append_left _ hc
    · exact fun c hc => hsplit ▸ List.mem_append_right _ hc
  | some found =>
    have hsplit : cs = found.1 ++ '\x7d' :: found.2 := eq_of_closeChunk h
    rw [Option.getD_some]
    constructor
    · exact hsplit ▸ List.subset_append_left _ _
    · exact hsplit ▸ List.subset_append_of_subset_right _ (List.subset_cons_self _ _)

/-- **Every record of a scan** is one that a text can hold; where the text has neither quotes nor
backslashes, braces can hold its values. -/
theorem found_of_mem_scanFrom (start : Nat) (cs : List Char) :
    ∀ r ∈ (scanFrom start cs).records,
      Found r ∧ (IsUnmarked cs → ∀ f ∈ r.fields, ValueText f.2.toList) := by
  fun_induction scanFrom start cs with
  | case1 => exact fun r hr => absurd hr List.not_mem_nil
  | case2 start c cs header rest hh stop s ih =>
    obtain ⟨hbody, hbehind⟩ := bodyOf_subset rest
    have hrest : rest ⊆ c :: cs := (header?_spec hh).2.2.2.2.subset
    refine List.forall_mem_cons.mpr ⟨⟨found_record hh _, fun hmarks f hf => ?_⟩, fun r hr => ?_⟩
    · have hf' : f ∈ parseFields (bodyOf rest).1 := hf
      exact ((parseFields_spec _).2 f hf').2.2
        (hmarks.of_subset (List.Subset.trans hbody hrest))
    · obtain ⟨hfound, hvalues⟩ := ih r hr
      exact ⟨hfound, fun hmarks =>
        hvalues (hmarks.of_subset (List.Subset.trans hbehind hrest))⟩
  | case3 start cs s hh ih =>
    intro r hr
    obtain ⟨hfound, hvalues⟩ := ih r hr
    exact ⟨hfound, fun hmarks => hvalues (hmarks.of_subset (List.subset_cons_self _ _))⟩
  | case4 start c cs hh s hc ih =>
    intro r hr
    obtain ⟨hfound, hvalues⟩ := ih r hr
    exact ⟨hfound, fun hmarks => hvalues (hmarks.of_subset (List.subset_cons_self _ _))⟩

end CiteSieve.Bibtex
