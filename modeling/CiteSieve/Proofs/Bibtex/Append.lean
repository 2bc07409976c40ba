import CiteSieve.Proofs.Bibtex.Crossing
import CiteSieve.Proofs.Text.Tidy

/-!
# Scanning a text with entries behind it

A text may end anywhere: after a stray `@`, within a header, within an entry that is never closed,
within a quoted value, after a backslash. If a header follows it, no header of the text reaches
over; an entry that is closed does not either, and one that is never closed ends there if what
follows stands on its own (`StandsAlone`). Then the scan of both is the scan of the one and then of
the other.

Results:
* `header?_append`: a header is read as if the text ended, where a header follows.
* `bodyOf_append_of_closed`, `bodyOf_append`: a body is read as if the text ended.
* `scanFrom_append_of_bodies`: the scan of a text with a header behind it that no body reaches over.
* `scanFrom_append`: the scan of a text with a text behind it that stands on its own.
-/

namespace CiteSieve.Bibtex

/-- A text that begins an entry and cannot be part of one that began before it. -/
structure StandsAlone (e : List Char) : Prop where
  isHeader : (header? e).isSome = true
  neverCloses : NeverCloses e
  tail_neverCloses : NeverCloses e.tail

theorem header?_cons_ne {c : Char} (hc : c ≠ '@') (cs : List Char) : header? (c :: cs) = none := by
  unfold header?
  split
  · rename_i h
    exact absurd (List.cons.inj h).1 hc
  · rfl

theorem eq_cons_of_isHeader {e : List Char} (he : (header? e).isSome = true) :
    ∃ cs, e = '@' :: cs := by
  cases e with
  | nil => exact absurd he (by decide)
  | cons c cs =>
    by_cases hc : c = '@'
    · exact ⟨cs, by rw [hc]⟩
    · rw [header?_cons_ne hc] at he
      exact absurd he (by decide)

/-! ## Headers -/

/-- What stands between the opening brace of a header and its comma. -/
def headerKey? (type : List Char) (cs : List Char) : Option (Header × List Char) :=
  match cs.dropWhile isKeyChar with
  | ',' :: rest =>
    if type = [] ∨ cs.takeWhile isKeyChar = [] then none
    else some (⟨type, Text.trimChars (cs.takeWhile isKeyChar)⟩, rest)
  | _ => none

theorem header?_at (cs : List Char) :
    header? ('@' :: cs) =
      match (cs.dropWhile Text.isWord).dropWhile Text.isBlank with
      | '\x7b' :: r => headerKey? (cs.takeWhile Text.isWord) r
      | _ => none := rfl

theorem isKeyChar_of_isWord {c : Char} (hc : Text.isWord c = true) : isKeyChar c = true := by
  simp only [isKeyChar, Bool.and_eq_true, bne_iff_ne]
  exact ⟨⟨Text.ne_of_isWord hc (by decide), Text.ne_of_isWord hc (by decide)⟩,
    Text.ne_of_isWord hc (by decide)⟩

theorem isKeyChar_of_isBlank {c : Char} (hc : Text.isBlank c = true) : isKeyChar c = true := by
  have hne : ∀ m, Text.isBlank m = false → c ≠ m := by
    rintro m hm rfl
    rw [hc] at hm
    cases hm
  simp only [isKeyChar, Bool.and_eq_true, bne_iff_ne]
  exact ⟨⟨hne _ (by decide), hne _ (by decide)⟩, hne _ (by decide)⟩

/-- Blanks behind words are passed over where all that is passed over is words and blanks. -/
theorem dropWhile_isKeyChar_of_words {cs r : List Char}
    (h : (cs.dropWhile Text.isWord).dropWhile Text.isBlank = '\x7b' :: r) :
    cs.dropWhile isKeyChar = '\x7b' :: r := by
  have hwords : ∀ c ∈ cs.takeWhile Text.isWord, isKeyChar c = true := fun c hc =>
    isKeyChar_of_isWord (List.all_eq_true.mp List.all_takeWhile c hc)
  have hblanks : ∀ c ∈ (cs.dropWhile Text.isWord).takeWhile Text.isBlank, isKeyChar c = true :=
    fun c hc => isKeyChar_of_isBlank (List.all_eq_true.mp List.all_takeWhile c hc)
  rw [← List.takeWhile_append_dropWhile (p := Text.isWord) (l := cs),
    List.dropWhile_append_of_pos hwords,
    ← List.takeWhile_append_dropWhile (p := Text.isBlank) (l := cs.dropWhile Text.isWord),
    List.dropWhile_append_of_pos hblanks, h]
  exact List.dropWhile_cons_of_neg (by decide)

/-- A header has no comma before its brace, so a key before it does not end there. -/
theorem no_comma_of_isHeader {e : List Char} (he : (header? e).isSome = true) (r : List Char) :
    e.dropWhile isKeyChar ≠ ',' :: r := by
  obtain ⟨cs, rfl⟩ := eq_cons_of_isHeader he
  rw [header?_at] at he
  split at he
  · rename_i r' hr
    rw [List.dropWhile_cons_of_pos (by decide), dropWhile_isKeyChar_of_words hr]
    exact fun hc => absurd (List.cons.inj hc).1 (by decide)
  · exact absurd he (by decide)

theorem takeWhile_append_of_stop {p : Char → Bool} {e : List Char} (h : e.takeWhile p = [])
    (cs : List Char) : (cs ++ e).takeWhile p = cs.takeWhile p := by
  rw [List.takeWhile_append]
  split
  · rename_i hlen
    rw [h, List.append_nil, (List.takeWhile_prefix p).eq_of_length hlen]
  · rfl

theorem dropWhile_append_of_stop {p : Char → Bool} {e : List Char} (h : e.dropWhile p = e)
    (cs : List Char) : (cs ++ e).dropWhile p = cs.dropWhile p ++ e := by
  rw [List.dropWhile_append]
  split
  · rename_i hnil
    rw [h, List.isEmpty_iff.mp hnil, List.nil_append]
  · rfl

theorem takeWhile_append_of_dropWhile_ne {p : Char → Bool} {cs : List Char}
    (h : cs.dropWhile p ≠ []) (e : List Char) : (cs ++ e).takeWhile p = cs.takeWhile p := by
  rw [List.takeWhile_append]
  split
  · rename_i hlen
    have hall := List.takeWhile_append_dropWhile (p := p) (l := cs)
    have hself := (List.takeWhile_prefix p).eq_of_length hlen
    rw [hself] at hall
    exact absurd (List.append_right_eq_self.mp hall) h
  · rfl

theorem dropWhile_append_of_ne {p : Char → Bool} {cs : List Char} (h : cs.dropWhile p ≠ [])
    (e : List Char) : (cs ++ e).dropWhile p = cs.dropWhile p ++ e := by
  rw [List.dropWhile_append, if_neg (by rwa [List.isEmpty_iff])]

/-- What a header leaves, as it is left when `e` stands behind. -/
def beforeHeader (e : List Char) (r : Header × List Char) : Header × List Char :=
  (r.1, r.2 ++ e)

theorem headerKey?_append {e : List Char} (he : (header? e).isSome = true)
    (type cs : List Char) :
    headerKey? type (cs ++ e) = (headerKey? type cs).map (beforeHeader e) := by
  unfold headerKey?
  cases hd : cs.dropWhile isKeyChar with
  | nil =>
    -- The key goes on into `e`, where no comma ends it.
    have h : (cs ++ e).dropWhile isKeyChar = e.dropWhile isKeyChar := by
      rw [List.dropWhile_append, hd]
      rfl
    rw [h]
    split
    · rename_i hr
      exact absurd hr (no_comma_of_isHeader he _)
    · rfl
  | cons c r =>
    have hne : cs.dropWhile isKeyChar ≠ [] := by rw [hd]; exact List.cons_ne_nil c r
    rw [dropWhile_append_of_ne hne, takeWhile_append_of_dropWhile_ne hne, hd, List.cons_append]
    by_cases hc : c = ','
    · subst hc
      by_cases ht : type = [] ∨ cs.takeWhile isKeyChar = []
      · simp only [if_pos ht, Option.map_none]
      · simp only [if_neg ht, Option.map_some, beforeHeader]
    · split
      · rename_i h
        exact absurd (List.cons.inj h).1 hc
      · split
        · rename_i h
          exact absurd (List.cons.inj h).1 hc
        · rfl

/-- **A header is read as if the text ended**, whether it is one or not. -/
theorem header?_append {e : List Char} (he : (header? e).isSome = true) (c : Char)
    (cs : List Char) : header? (c :: (cs ++ e)) = (header? (c :: cs)).map (beforeHeader e) := by
  by_cases hc : c = '@'
  · obtain ⟨e', rfl⟩ := eq_cons_of_isHeader he
    have hword : ('@' :: e').dropWhile Text.isWord = '@' :: e' :=
      List.dropWhile_cons_of_neg (by decide)
    have hblank : ('@' :: e').dropWhile Text.isBlank = '@' :: e' :=
      List.dropWhile_cons_of_neg (by decide)
    have htype : ('@' :: e').takeWhile Text.isWord = [] := List.takeWhile_cons_of_neg (by decide)
    rw [hc, header?_at, header?_at, dropWhile_append_of_stop hword,
      dropWhile_append_of_stop hblank, takeWhile_append_of_stop htype]
    cases (cs.dropWhile Text.isWord).dropWhile Text.isBlank with
    | nil => rfl
    | cons c r =>
      rw [List.cons_append]
      by_cases ho : c = '\x7b'
      · subst ho
        exact headerKey?_append he _ r
      · split
        · rename_i h
          exact absurd (List.cons.inj h).1 ho
        · split
          · rename_i h
            exact absurd (List.cons.inj h).1 ho
          · rfl
  · rw [header?_cons_ne hc, header?_cons_ne hc]
    rfl

theorem header?_append_of_some {e : List Char} (he : (header? e).isSome = true) {c : Char}
    {cs rest : List Char} {h : Header} (hh : header? (c :: cs) = some (h, rest)) :
    header? (c :: (cs ++ e)) = some (h, rest ++ e) := by
  rw [header?_append he, hh]
  rfl

theorem header?_append_of_none {e : List Char} (he : (header? e).isSome = true) {c : Char}
    {cs : List Char} (hh : header? (c :: cs) = none) : header? (c :: (cs ++ e)) = none := by
  rw [header?_append he, hh]
  rfl

/-! ## Bodies -/

theorem untilHeader_of_isHeader {cs : List Char} (h : (header? cs).isSome = true) :
    untilHeader cs = ([], cs) := by
  cases cs with
  | nil => rfl
  | cons c cs => rw [untilHeader, if_pos h]

/-- The search for the next header stops before `e` at the latest. -/
theorem untilHeader_append_of {e : List Char} (he : (header? e).isSome = true) :
    ∀ cs : List Char, untilHeader (cs ++ e) = before e (untilHeader cs)
  | [] => untilHeader_of_isHeader he
  | c :: cs => by
    rw [List.cons_append, untilHeader, untilHeader, header?_append he, Option.isSome_map,
      untilHeader_append_of he cs]
    split
    · rfl
    · rfl

/-- **A body that is closed is read as if the text ended.** -/
theorem bodyOf_append_of_closed {cs : List Char} (hcs : (closeChunk 0 false cs).isSome = true)
    (e : List Char) : bodyOf (cs ++ e) = before e (bodyOf cs) := by
  have hclosed : closeChunk 0 false cs = none → NeverCloses e ∧ NeverCloses e.tail := fun hnone =>
    absurd hcs (by rw [hnone]; decide)
  obtain ⟨found, hfound⟩ := Option.isSome_iff_exists.mp hcs
  unfold bodyOf
  rw [closeChunk_append_of hclosed, hfound]
  rfl

/-- **A body is read as if the text ended**, whether it is closed or not. -/
theorem bodyOf_append {e : List Char} (he : StandsAlone e) (cs : List Char) :
    bodyOf (cs ++ e) = before e (bodyOf cs) := by
  unfold bodyOf
  rw [closeChunk_append he.neverCloses he.tail_neverCloses, untilHeader_append_of he.isHeader]
  cases closeChunk 0 false cs <;> rfl

/-! ## Scans -/

/-- A scan and the scan of what stands behind. -/
def Scan.append (s t : Scan) : Scan :=
  ⟨s.entries ++ t.entries, s.skipped ++ t.skipped⟩

theorem Scan.nil_append (s : Scan) : Scan.append {} s = s := rfl

theorem scanFrom_of_header {start : Nat} {c : Char} {cs rest : List Char} {h : Header}
    (hh : header? (c :: cs) = some (h, rest)) :
    scanFrom start (c :: cs) =
      let stop := start + ((c :: cs).length - (bodyOf rest).2.length)
      let s := scanFrom stop (bodyOf rest).2
      ⟨⟨start, stop, h.record (bodyOf rest).1⟩ :: s.entries, s.skipped⟩ := by
  rw [scanFrom]
  split
  · rename_i heq
    rw [hh] at heq
    cases heq
    rfl
  · rename_i heq
    rw [hh] at heq
    cases heq

theorem scanFrom_of_none {start : Nat} {c : Char} {cs : List Char}
    (hh : header? (c :: cs) = none) :
    scanFrom start (c :: cs) =
      let s := scanFrom (start + 1) cs
      if c = '@' then ⟨s.entries, start :: s.skipped⟩ else s := by
  rw [scanFrom]
  split
  · rename_i heq
    rw [hh] at heq
    cases heq
  · rfl

theorem header?_suffix {cs rest : List Char} {h : Header} (e : header? cs = some (h, rest)) :
    rest <:+ cs := by
  obtain ⟨cs, rfl⟩ := eq_cons_of_isHeader (Option.isSome_of_eq_some e)
  rw [header?_at] at e
  split at e
  · rename_i r hr
    unfold headerKey? at e
    split at e
    · rename_i rest' hrest
      split at e
      · cases e
      · cases e
        have hkey : rest <:+ r := (List.suffix_cons ',' rest).trans
          (hrest ▸ List.dropWhile_suffix isKeyChar)
        have hbrace : r <:+ cs := (List.suffix_cons '\x7b' r).trans
          (hr ▸ (List.dropWhile_suffix Text.isBlank).trans (List.dropWhile_suffix Text.isWord))
        exact (hkey.trans hbrace).trans (List.suffix_cons '@' cs)
    · cases e
  · cases e

theorem bodyOf_suffix (cs : List Char) : (bodyOf cs).2 <:+ cs := by
  unfold bodyOf
  cases h : closeChunk 0 false cs with
  | none => exact ⟨_, untilHeader_append cs⟩
  | some found =>
    have hcs : cs = found.1 ++ '\x7d' :: found.2 := eq_of_closeChunk h
    rw [Option.getD_some]
    exact ⟨found.1 ++ ['\x7d'], by rw [List.append_assoc, List.singleton_append, ← hcs]⟩

/-- Entries stand where the scan begins or further on. -/
theorem le_start_of_mem_scanFrom (start : Nat) (cs : List Char) :
    ∀ x ∈ (scanFrom start cs).entries, start ≤ x.start := by
  fun_induction scanFrom start cs with
  | case1 => exact fun x hx => absurd hx List.not_mem_nil
  | case2 start c cs header rest hh stop s ih =>
    refine List.forall_mem_cons.mpr ⟨Nat.le_refl _, fun x hx => ?_⟩
    exact Nat.le_trans (Nat.le_add_right _ _) (ih x hx)
  | case3 start cs s hh ih => exact fun x hx => Nat.le_of_succ_le (ih x hx)
  | case4 start c cs hh s hc ih => exact fun x hx => Nat.le_of_succ_le (ih x hx)

/-- `P` holds of what stands behind the header of each entry that the scan of `cs` finds. -/
def EachBody (P : List Char → Prop) (start : Nat) (cs : List Char) : Prop :=
  ∀ x ∈ (scanFrom start cs).entries, ∀ h rest,
    header? (cs.drop (x.start - start)) = some (h, rest) → P rest

section EachBody

variable {P : List Char → Prop} {start : Nat} {c : Char} {cs : List Char}

theorem EachBody.head {rest : List Char} {h : Header} (hP : EachBody P start (c :: cs))
    (hh : header? (c :: cs) = some (h, rest)) : P rest := by
  unfold EachBody at hP
  rw [scanFrom_of_header hh] at hP
  have hfirst := (List.forall_mem_cons.mp hP).1 h rest
  rw [Nat.sub_self, List.drop_zero] at hfirst
  exact hfirst hh

/-- The entries behind the first one stand in what is behind its body. -/
theorem EachBody.behind {rest : List Char} {h : Header} (hP : EachBody P start (c :: cs))
    (hh : header? (c :: cs) = some (h, rest)) :
    EachBody P (start + ((c :: cs).length - (bodyOf rest).2.length)) (bodyOf rest).2 := by
  unfold EachBody at hP
  rw [scanFrom_of_header hh] at hP
  intro x hx h' rest' hx'
  have hstart := le_start_of_mem_scanFrom _ _ x hx
  have hdrop := List.suffix_iff_eq_drop.mp ((bodyOf_suffix rest).trans (header?_suffix hh))
  refine (List.forall_mem_cons.mp hP).2 x hx h' rest' ?_
  generalize (c :: cs).length - (bodyOf rest).2.length = n at hdrop hstart hx'
  rw [hdrop, List.drop_drop] at hx'
  rwa [show x.start - start = n + (x.start - (start + n)) by omega]

theorem EachBody.tail (hP : EachBody P start (c :: cs)) (hh : header? (c :: cs) = none) :
    EachBody P (start + 1) cs := by
  intro x hx h rest hx'
  have hstart := le_start_of_mem_scanFrom _ _ x hx
  have hmem : x ∈ (scanFrom start (c :: cs)).entries := by
    rw [scanFrom_of_none hh]
    dsimp only
    split
    · exact hx
    · exact hx
  refine hP x hmem h rest ?_
  rwa [show x.start - start = x.start - (start + 1) + 1 by omega, List.drop_succ_cons]

end EachBody

/-- **The scan of a text with a header behind it** is the scan of the one and then of the other, as
long as every body of the text is read as if the text ended. -/
theorem scanFrom_append_of_bodies {e : List Char} (he : (header? e).isSome = true) (start : Nat)
    (cs : List Char)
    (hbodies : EachBody (fun rest => bodyOf (rest ++ e) = before e (bodyOf rest)) start cs) :
    scanFrom start (cs ++ e) = (scanFrom start cs).append (scanFrom (start + cs.length) e) := by
  fun_induction scanFrom start cs with
  | case1 start =>
    rw [List.nil_append, List.length_nil, Nat.add_zero]
    exact (Scan.nil_append _).symm
  | case2 start c cs header rest hh stop s ih =>
    have hrest := length_header? hh
    have hbody := length_bodyOf_le rest
    have hlen : (c :: (cs ++ e)).length - ((bodyOf rest).2 ++ e).length =
        (c :: cs).length - (bodyOf rest).2.length := by
      simp only [List.length_cons, List.length_append]
      omega
    have hstop : stop + (bodyOf rest).2.length = start + (c :: cs).length := by
      simp only [stop]
      omega
    rw [List.cons_append, scanFrom_of_header (header?_append_of_some he hh), hbodies.head hh,
      ← hstop]
    simp only [before]
    rw [hlen, ih (hbodies.behind hh)]
    rfl
  | case3 start cs s hh ih =>
    rw [List.cons_append, scanFrom_of_none (header?_append_of_none he hh), ih (hbodies.tail hh),
      List.length_cons, Nat.add_assoc start, Nat.add_comm 1]
    rfl
  | case4 start c cs hh s hc ih =>
    rw [List.cons_append, scanFrom_of_none (header?_append_of_none he hh), ih (hbodies.tail hh),
      List.length_cons, Nat.add_assoc start, Nat.add_comm 1]
    simp only [if_neg hc]
    rfl

/-- **The scan of a text with a text behind it that stands on its own** is the scan of the one and
then of the other. -/
theorem scanFrom_append {e : List Char} (he : StandsAlone e) (start : Nat) (cs : List Char) :
    scanFrom start (cs ++ e) = (scanFrom start cs).append (scanFrom (start + cs.length) e) :=
  scanFrom_append_of_bodies he.isHeader start cs fun _ _ _ rest _ => bodyOf_append he rest

end CiteSieve.Bibtex
