import CiteSieve.Proofs.Console.Reading

/-!
# Escaped texts are shown

Before each tag of a text escaping puts as many backslashes as there are and one more. Nothing else
becomes a tag by this, so every tag of an escaped text stands behind an odd number of backslashes,
and is shown.

* `escaped_slash`, `escaped_tag`, `escaped_char`: how a text is escaped.
* `tag?_escaped`: what is a tag behind a bracket that stays as it is.
* `exists_shown_escape`: an escaped text is shown; `shown_escape_self`: when it is shown as it was.
-/

namespace CiteSieve.Console

/-! ## Escaping -/

/-- Fuel for more characters than there are changes nothing. -/
theorem escapeFrom_fuel : ∀ {fuel fuel' : Nat} (n : Nat) {cs : List Char},
    cs.length < fuel → cs.length < fuel' → escapeFrom fuel n cs = escapeFrom fuel' n cs
  | fuel + 1, fuel' + 1, _, [], _, _ => rfl
  | fuel + 1, fuel' + 1, n, c :: cs, h, h' => by
    have hcs : cs.length < fuel := Nat.lt_of_succ_lt_succ h
    have hcs' : cs.length < fuel' := Nat.lt_of_succ_lt_succ h'
    rw [escapeFrom, escapeFrom]
    split
    · exact escapeFrom_fuel _ hcs hcs'
    · split
      · rename_i text rest htag
        have hrest : rest.length < (c :: cs).length := length_lt_of_tag? htag
        rw [List.length_cons] at hrest
        rw [escapeFrom_fuel _ (by omega : rest.length < fuel) (by omega : rest.length < fuel')]
      · rw [escapeFrom_fuel _ hcs hcs']

/-- The characters, escaped, with `n` backslashes before them. -/
def escaped (n : Nat) (cs : List Char) : List Char :=
  escapeFrom (cs.length + 1) n cs

section Laws

variable {n : Nat} {c : Char} {cs text rest : List Char}

@[simp] theorem escaped_nil : escaped n [] = slashes n := rfl

@[simp] theorem escaped_slash : escaped n ('\\' :: cs) = escaped (n + 1) cs := by
  rw [escaped, List.length_cons, escapeFrom, if_pos rfl, escaped]

/-- A tag is put behind twice its backslashes and one more. -/
theorem escaped_tag (htext : IsTag text) : escaped n ('[' :: (text ++ ']' :: rest)) =
    slashes (2 * n + 1) ++ '[' :: (text ++ ']' :: escaped 0 rest) := by
  have htag := tag?_of_isTag htext rest
  have hrest := length_lt_of_tag? htag
  rw [escaped, List.length_cons, escapeFrom, if_neg (by decide), htag]
  dsimp only
  rw [escapeFrom_fuel 0 (by rwa [List.length_cons] at hrest) (Nat.lt_succ_self _), escaped,
    List.append_assoc, List.cons_append]

/-- Any other character stays as it is. -/
theorem escaped_char (hc : c ≠ '\\') (htag : tag? (c :: cs) = none) :
    escaped n (c :: cs) = slashes n ++ c :: escaped 0 cs := by
  rw [escaped, List.length_cons, escapeFrom, if_neg hc, htag, escaped]

/-- Brackets stay, behind some backslashes. -/
theorem exists_escaped_bracket (n : Nat) (cs : List Char) :
    ∃ k after, escaped n ('[' :: cs) = slashes k ++ '[' :: after := by
  cases htag : tag? ('[' :: cs) with
  | none => exact ⟨n, _, escaped_char (by decide) htag⟩
  | some tag =>
    obtain ⟨hsplit, htext⟩ := tag?_eq_some_iff.mp htag
    rw [hsplit]
    exact ⟨2 * n + 1, _, escaped_tag htext⟩

/-- No backslash is lost. -/
theorem exists_escaped_eq (n : Nat) (cs : List Char) :
    ∃ after, escaped n cs = slashes n ++ after := by
  induction cs using tags_induction generalizing n with
  | nil => exact ⟨[], (List.append_nil _).symm⟩
  | slash cs ih =>
    obtain ⟨after, hafter⟩ := ih (n + 1)
    exact ⟨'\\' :: after, by rw [escaped_slash, hafter, slashes_cons]⟩
  | char c cs hslash htag _ => exact ⟨_, escaped_char hslash htag⟩
  | tag text rest htext _ =>
    have hslashes : slashes (2 * n + 1) = slashes n ++ slashes (n + 1) := by
      rw [List.replicate_append_replicate, Nat.two_mul, Nat.add_assoc]
    rw [escaped_tag htext, hslashes, List.append_assoc]
    exact ⟨_, rfl⟩

/-- An escaped text begins as the text does, or with a backslash. -/
theorem exists_cons_escaped (c : Char) (cs : List Char) :
    ∃ d after, escaped 0 (c :: cs) = d :: after ∧ (d = c ∨ d = '\\') := by
  by_cases hslash : c = '\\'
  · obtain ⟨after, hafter⟩ := exists_escaped_eq 1 cs
    exact ⟨'\\', after, by rw [hslash, escaped_slash, hafter]; rfl, .inr rfl⟩
  · cases htag : tag? (c :: cs) with
    | none => exact ⟨c, _, escaped_char hslash htag, .inl rfl⟩
    | some tag =>
      obtain ⟨hsplit, htext⟩ := tag?_eq_some_iff.mp htag
      rw [hsplit]
      exact ⟨'\\', _, escaped_tag htext, .inr rfl⟩

/-- At most one more backslash is put at the end. -/
theorem exists_closeSlash_eq (cs : List Char) : ∃ m, closeSlash cs = cs ++ slashes m := by
  unfold closeSlash
  split
  · exact ⟨0, (List.append_nil cs).symm⟩
  · exact ⟨1, rfl⟩
  · exact ⟨0, (List.append_nil cs).symm⟩

theorem exists_toList_escape (s : String) :
    ∃ m, (escape s).toList = escaped 0 s.toList ++ slashes m := by
  rw [escape, String.toList_ofList, escaped, String.length_toList]
  exact exists_closeSlash_eq _

/-- Only nothing becomes nothing when it is escaped. -/
theorem escape_eq_empty_iff {s : String} : escape s = "" ↔ s = "" := by
  constructor
  · intro h
    obtain ⟨m, hm⟩ := exists_toList_escape s
    rw [← String.toList_eq_nil_iff, hm, List.append_eq_nil_iff] at h
    rw [← String.toList_eq_nil_iff]
    cases hs : s.toList with
    | nil => rfl
    | cons c cs =>
      obtain ⟨d, after, hescaped, -⟩ := exists_cons_escaped c cs
      rw [hs] at h
      exact absurd (hescaped.symm.trans h.1) (List.cons_ne_nil d after)
  · rintro rfl
    rfl

/-! ## Tags of escaped texts -/

/-- Backslashes are passed by when the end of a tag is looked for. -/
theorem untilBracket_slashes (n : Nat) (cs : List Char) :
    untilBracket (slashes n ++ cs) =
      (untilBracket cs).map fun (text, rest) => (slashes n ++ text, rest) := by
  induction n with
  | zero => exact Option.map_id'.symm
  | succ n ih =>
    rw [slashes, List.replicate_succ, List.cons_append, untilBracket, if_neg (by decide),
      if_neg (by decide), ih, Option.map_map]
    rfl

/-- What a text holds up to a closing bracket with no opening one before it, it holds escaped. -/
theorem untilBracket_escaped (m : Nat) (cs : List Char) : ∀ n,
    untilBracket (escaped n cs ++ slashes m) =
      (untilBracket (slashes n ++ cs)).map fun (text, rest) =>
        (text, escaped 0 rest ++ slashes m) := by
  have hnil : ∀ n, untilBracket (slashes n) = none := by
    intro n
    rw [← List.append_nil (slashes n), untilBracket_slashes]
    rfl
  induction cs with
  | nil =>
    intro n
    rw [escaped_nil, List.append_nil, untilBracket_slashes, hnil, hnil]
    rfl
  | cons c cs ih =>
    intro n
    by_cases hslash : c = '\\'
    · rw [hslash, escaped_slash, ih, slashes_cons]
    by_cases hbracket : c = '['
    · -- The bracket ends the search on both sides.
      have hstop : ∀ n cs, untilBracket (slashes n ++ '[' :: cs) = none := by
        intro n cs
        rw [untilBracket_slashes]
        rfl
      subst hbracket
      rw [hstop]
      obtain ⟨k, after, hescaped⟩ := exists_escaped_bracket n cs
      rw [hescaped, List.append_assoc, List.cons_append, hstop]
      rfl
    · have hrest : untilBracket (escaped 0 cs ++ slashes m) =
          (untilBracket cs).map fun (text, rest) => (text, escaped 0 rest ++ slashes m) := ih 0
      rw [escaped_char hslash (tag?_of_ne hbracket cs), List.append_assoc, untilBracket_slashes,
        untilBracket_slashes, List.cons_append, untilBracket, untilBracket, if_neg hbracket,
        if_neg hbracket, hrest]
      by_cases hclose : c = ']'
      · rw [if_pos hclose, if_pos hclose]
        rfl
      · rw [if_neg hclose, if_neg hclose]
        simp only [Option.map_map]
        rfl

/-- **Nothing becomes a tag:** behind a bracket that stays as it is there is an escaped tag only if
there was a tag before. -/
theorem tag?_escaped (m : Nat) (cs : List Char) :
    tag? ('[' :: (escaped 0 cs ++ slashes m)) =
      (tag? ('[' :: cs)).map fun (text, rest) => (text, escaped 0 rest ++ slashes m) := by
  have hnone : ∀ {c : Char} (cs : List Char), startsTag c = false →
      tag? ('[' :: c :: cs) = none := fun cs hc =>
    if_neg fun h => absurd (hc.symm.trans h.2) Bool.false_ne_true
  cases cs with
  | nil =>
    cases m with
    | zero => rfl
    | succ m => exact hnone (slashes m) (by decide)
  | cons c cs =>
    cases hc : startsTag c with
    | true =>
      have hslash : c ≠ '\\' := ne_of_startsTag hc (by decide)
      have hrest : untilBracket (escaped 0 cs ++ slashes m) =
          (untilBracket cs).map fun (text, rest) => (text, escaped 0 rest ++ slashes m) :=
        untilBracket_escaped m cs 0
      have hescaped : escaped 0 (c :: cs) = c :: escaped 0 cs :=
        escaped_char hslash (tag?_of_ne (ne_of_startsTag hc (by decide)) cs)
      rw [hescaped, List.cons_append, tag?, tag?, if_pos ⟨rfl, hc⟩, if_pos ⟨rfl, hc⟩, hrest,
        Option.map_map, Option.map_map]
      rfl
    | false =>
      obtain ⟨d, after, hescaped, hd⟩ := exists_cons_escaped c cs
      have hstart : startsTag d = false := by
        rcases hd with rfl | rfl
        · exact hc
        · decide
      rw [hescaped, List.cons_append, hnone _ hstart, hnone _ hc]
      rfl

/-- A character that begins no tag begins none when what follows it is escaped. -/
theorem tag?_cons_escaped (htag : tag? (c :: cs) = none) (m : Nat) :
    tag? (c :: (escaped 0 cs ++ slashes m)) = none := by
  by_cases hbracket : c = '['
  · rw [hbracket] at htag
    rw [hbracket, tag?_escaped, htag, Option.map_none]
  · exact tag?_of_ne hbracket _

/-! ## What is shown of escaped texts -/

/-- Escaped characters are shown, whatever was set before. -/
theorem exists_reads_escaped (m : Nat) (cs : List Char) : ∀ (stack : List String)
    (position n : Nat), ∃ shown, Reads stack position 0 (escaped n cs ++ slashes m) shown := by
  induction cs using tags_induction with
  | nil =>
    intro stack position n
    rw [escaped_nil, List.replicate_append_replicate]
    exact ⟨_, (reads_only_slashes _).mpr rfl⟩
  | slash cs ih =>
    intro stack position n
    rw [escaped_slash]
    exact ih stack position (n + 1)
  | char c cs hslash htag ih =>
    intro stack position n
    obtain ⟨after, hafter⟩ := ih stack (position + n + 1) 0
    rw [escaped_char hslash htag, List.append_assoc, List.cons_append]
    exact ⟨_, (reads_slashes n).mpr
      ((reads_of_tag?_none hslash (tag?_cons_escaped htag m)).mpr ⟨after, hafter, rfl⟩)⟩
  | tag text rest htext ih =>
    intro stack position n
    obtain ⟨after, hafter⟩ := ih stack (position + (2 * n + 1) + text.length + 2) 0
    have htag := tag?_of_isTag htext (escaped 0 rest ++ slashes m)
    rw [escaped_tag htext, List.append_assoc, List.cons_append, List.append_assoc,
      List.cons_append]
    exact ⟨_, (reads_slashes _).mpr ((reads_plainTag htag (by omega)).mpr ⟨after, hafter, rfl⟩)⟩

end Laws

/-- **An escaped text is shown,** whatever tags and backslashes the text holds. -/
theorem exists_shown_escape (s : String) : ∃ t, shown (escape s) = .ok t := by
  obtain ⟨m, hm⟩ := exists_toList_escape s
  obtain ⟨cs, hcs⟩ := exists_reads_escaped m s.toList [] 0 0
  refine ⟨String.ofList cs, shown_eq_ok_iff.mpr ?_⟩
  rwa [hm, String.toList_ofList]

/-! ## Texts that are shown as they are -/

theorem closeSlash_of_getLast? {cs : List Char} (h : cs.getLast? ≠ some '\\') :
    closeSlash cs = cs := by
  rw [List.getLast?_eq_head?_reverse] at h
  unfold closeSlash
  split
  · rfl
  · rename_i heq
    exact absurd (by rw [heq]; rfl) h
  · rfl

/-- Nothing is put at the end. -/
theorem getLast?_escaped (n : Nat) (cs : List Char) :
    (escaped n cs).getLast? = (slashes n ++ cs).getLast? := by
  induction cs using tags_induction generalizing n with
  | nil => rw [escaped_nil, List.append_nil]
  | slash cs ih => rw [escaped_slash, slashes_cons, ih]
  | char c cs hslash htag ih =>
    have hrest : (escaped 0 cs).getLast? = cs.getLast? := ih 0
    rw [escaped_char hslash htag, List.getLast?_append, List.getLast?_append, List.getLast?_cons,
      List.getLast?_cons, hrest]
  | tag text rest htext ih =>
    have hrest : (escaped 0 rest).getLast? = rest.getLast? := ih 0
    simp only [escaped_tag htext, List.getLast?_append, List.getLast?_cons, hrest,
      Option.getD_some, Option.some_or]

/-- Escaped characters are shown as they were if no backslash stands before a bracket. -/
theorem reads_escaped_self (cs : List Char) : ∀ (stack : List String) (position n : Nat),
    (∀ c ∈ cs, isHidden c = false) → ¬ ['\\', '['] <:+: slashes n ++ cs →
      Reads stack position 0 (escaped n cs) (slashes n ++ cs) := by
  induction cs using tags_induction with
  | nil =>
    intro stack position n _ _
    rw [escaped_nil, List.append_nil, reads_only_slashes, Nat.zero_add]
  | slash cs ih =>
    intro stack position n hvisible hbare
    rw [slashes_cons] at hbare ⊢
    rw [escaped_slash]
    exact ih stack position (n + 1) (List.forall_mem_cons.mp hvisible).2 hbare
  | char c cs hslash htag ih =>
    intro stack position n hvisible hbare
    obtain ⟨hc, hcs⟩ := List.forall_mem_cons.mp hvisible
    have hrest : cs <:+: slashes n ++ c :: cs := ⟨slashes n ++ [c], [], by simp⟩
    have hafter := ih stack (position + n + 1) 0 hcs fun h => hbare (h.trans hrest)
    have hescaped : tag? (c :: escaped 0 cs) = none := by
      simpa using tag?_cons_escaped htag 0
    -- No backslash is there to be lost before a bracket.
    have hkept : (if c = '[' then 0 + n - 1 else 0 + n) = n := by
      split
      · rename_i hbracket
        cases n with
        | zero => rfl
        | succ n =>
          rw [hbracket, ← slashes_cons] at hbare
          exact absurd ⟨slashes n, cs, by simp⟩ hbare
      · exact Nat.zero_add n
    have hseen : visible (slashes n ++ [c]) = slashes n ++ [c] := by
      rw [visible_append, visible_slashes, visible_singleton hc]
    rw [escaped_char hslash htag, reads_slashes, reads_of_tag?_none hslash hescaped, hkept, hseen]
    exact ⟨cs, hafter, by rw [List.append_assoc, List.singleton_append]⟩
  | tag text rest htext ih =>
    intro stack position n hvisible hbare
    have hsplit : '[' :: (text ++ ']' :: rest) = ('[' :: text ++ [']']) ++ rest := by simp
    rw [hsplit] at hvisible hbare
    have htag := List.forall_mem_append.mp hvisible
    have hafter := ih stack (position + (2 * n + 1) + text.length + 2) 0 htag.2
      fun h => hbare (h.trans ⟨slashes n ++ ('[' :: text ++ [']']), [], by simp⟩)
    have hseen : visible ('[' :: text ++ [']']) = '[' :: text ++ [']'] :=
      List.filter_eq_self.mpr fun c hc => by simp [htag.1 c hc]
    have hhalf : (0 + (2 * n + 1)) / 2 = n := by omega
    rw [escaped_tag htext, reads_slashes, reads_plainTag (tag?_of_isTag htext _) (by omega), hhalf,
      hseen, hsplit]
    exact ⟨rest, hafter, rfl⟩

/-- **An escaped text is shown as it was** if all its characters can be seen, and no backslash
stands before a bracket or at the end. -/
theorem shown_escape_self {s : String} (hvisible : ∀ c ∈ s.toList, isHidden c = false)
    (hbracket : ¬ ['\\', '['] <:+: s.toList) (hlast : s.toList.getLast? ≠ some '\\') :
    shown (escape s) = .ok s := by
  have hescape : (escape s).toList = escaped 0 s.toList := by
    rw [escape, String.toList_ofList, ← String.length_toList]
    exact closeSlash_of_getLast? ((getLast?_escaped 0 s.toList).trans_ne hlast)
  rw [shown_eq_ok_iff, hescape]
  exact reads_escaped_self s.toList [] 0 0 hvisible hbracket

/-- Tags that are not closed, tags behind backslashes, and tags that go on in another line. -/
example : shown (escape "[a | [/b] [a [b] c \\[/d] [a\n]") =
    .ok "[a | [/b] [a [b] c \\[/d] [a\n]" := by
  decide +kernel

end CiteSieve.Console
