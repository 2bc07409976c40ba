import CiteSieve.Proofs.Bibtex.Chunks

/-!
# Levels of the search for a closing brace

The search for the brace that closes an entry knows at each character how many braces are open and
whether a quoted value is. Here it is followed by offsets (`Visits`), as a loop that goes on by one
character, or by two at a backslash. What it passes over between two visits of the entry's own
level is made of whole items: escaped characters, quoted values and groups in braces of any depth
(`LevelText`).

Results:
* `chunkEnd?_eq_some_iff`: an entry ends at the closing brace that is visited at its own level.
* `levelBehind?_top_iff`: the search goes from the entry's own level back to it through exactly
  the level texts.
* `visits_top_iff`: the offsets at the entry's own level are those that have a level text before
  them.
-/

namespace CiteSieve.Bibtex

/-- Where the search is: this many braces are open within the entry, and a quoted value is open at
its own level or not. -/
structure Level where
  depth : Nat
  inQuote : Bool
  deriving DecidableEq, Repr

/-- The own level of an entry, outside quoted values. -/
def Level.top : Level := ⟨0, false⟩

/-- The level behind a character that is not hidden; there is none behind the brace that closes
the entry. -/
def Level.next? (l : Level) (c : Char) : Option Level :=
  if c = '\x7b' then some { l with depth := l.depth + 1 }
  else if c = '\x7d' then
    match l with
    | ⟨0, false⟩ => none
    | ⟨0, true⟩ => some l
    | ⟨d + 1, q⟩ => some ⟨d, q⟩
  else if c = '"' ∧ l.depth = 0 then some { l with inQuote := !l.inQuote }
  else some l

/-- The search that begins at `start` comes to the offset `i`, and is there at the level `l`. -/
inductive Visits (text : List Char) (start : Nat) : (i : Nat) → (l : Level) → Prop
  | start : Visits text start start .top
  | escaped {i : Nat} {l : Level} (h : Visits text start i l) (hc : text[i]? = some '\\') :
      Visits text start (i + 2) l
  | next {i : Nat} {l l' : Level} {c : Char} (h : Visits text start i l)
      (hc : text[i]? = some c) (hb : c ≠ '\\') (hl : l.next? c = some l') :
      Visits text start (i + 1) l'

/-- The level behind a text; there is none if the entry is closed in the text, or if the last
backslash of the text hides what stands behind. -/
def levelBehind? : (l : Level) → List Char → Option Level
  | l, [] => some l
  | _, ['\\'] => none
  | l, '\\' :: _ :: cs => levelBehind? l cs
  | l, c :: cs => (l.next? c).bind fun l' => levelBehind? l' cs

/-! ## One step -/

theorem levelBehind?_cons {c : Char} (hb : c ≠ '\\') (l : Level) (cs : List Char) :
    levelBehind? l (c :: cs) = (l.next? c).bind fun l' => levelBehind? l' cs :=
  levelBehind?.eq_4 l c cs (fun e _ => hb e) (fun _ _ e _ => hb e)

theorem Level.next?_eq_none {l : Level} {c : Char} (h : l.next? c = none) :
    l = .top ∧ c = '\x7d' := by
  obtain ⟨d, q⟩ := l
  unfold Level.next? at h
  split at h
  · cases h
  · split at h
    · rename_i hc
      cases d <;> cases q <;> first | exact ⟨rfl, hc⟩ | cases h
    · split at h <;> cases h

/-- At its level the search takes a character as `Level.next?` says. -/
theorem closeChunk_cons {c : Char} (hb : c ≠ '\\') (l : Level) (cs : List Char) :
    closeChunk l.depth l.inQuote (c :: cs) =
      match l.next? c with
      | some l' => (closeChunk l'.depth l'.inQuote cs).map (behind [c])
      | none => some ([], cs) := by
  obtain ⟨d, q⟩ := l
  unfold Level.next?
  by_cases ho : c = '\x7b'
  · rw [if_pos ho, ho]
    exact crosses_open d q cs
  · rw [if_neg ho]
    by_cases hcl : c = '\x7d'
    · rw [if_pos hcl, hcl]
      match d, q with
      | 0, false => exact closeChunk_close cs
      | 0, true => exact closeChunk_zero (by decide) true cs (by decide)
      | d + 1, q => exact crosses_close d q cs
    · rw [if_neg hcl]
      cases d with
      | zero =>
        rw [closeChunk_zero hb q cs fun h => hcl h.1, if_neg ho]
        by_cases hq : c = '"'
        · rw [if_pos hq, if_pos ⟨hq, rfl⟩]
        · rw [if_neg hq, if_neg fun h => hq h.1]
      | succ d =>
        rw [closeChunk_succ hb, if_neg ho, if_neg hcl, if_neg fun h => nomatch h.2]

/-! ## The search as a whole -/

/-- Texts follow one another. -/
theorem levelBehind?_append {l l' : Level} {as : List Char} (h : levelBehind? l as = some l')
    (bs : List Char) : levelBehind? l (as ++ bs) = levelBehind? l' bs := by
  fun_induction levelBehind? l as with
  | case1 l =>
    cases h
    rfl
  | case2 => cases h
  | case3 l c cs ih => exact ih h
  | case4 l c cs h₁ h₂ ih =>
    obtain ⟨next, hnext, hcs⟩ := Option.bind_eq_some_iff.mp h
    rw [List.cons_append, levelBehind?_cons (ne_backslash h₁ h₂), hnext]
    exact ih next hcs

/-- The search crosses a text as far as a level is known behind it. -/
theorem crosses_of_levelBehind? {l l' : Level} {cs : List Char}
    (h : levelBehind? l cs = some l') : Crosses l.depth l.inQuote cs l'.depth l'.inQuote := by
  fun_induction levelBehind? l cs with
  | case1 l =>
    cases h
    exact Crosses.refl _ _
  | case2 => cases h
  | case3 l c cs ih => exact (crosses_escaped _ _ c).trans (ih h)
  | case4 l c cs h₁ h₂ ih =>
    obtain ⟨next, hnext, hcs⟩ := Option.bind_eq_some_iff.mp h
    refine Crosses.cons (fun rest => ?_) (ih next hcs)
    rw [List.singleton_append, closeChunk_cons (ne_backslash h₁ h₂), hnext]

theorem levelBehind?_of_closeChunk {l : Level} {cs body rest : List Char}
    (h : closeChunk l.depth l.inQuote cs = some (body, rest)) :
    levelBehind? l body = some .top := by
  induction l, cs using levelBehind?.induct generalizing body with
  | case1 l =>
    rw [closeChunk] at h
    cases h
  | case2 l =>
    rw [closeChunk] at h
    cases h
  | case3 l c cs ih =>
    rw [closeChunk] at h
    obtain ⟨⟨body', rest'⟩, hclose, he⟩ := Option.map_eq_some_iff.mp h
    obtain ⟨rfl, rfl⟩ := Prod.mk.inj he
    rw [levelBehind?]
    exact ih hclose
  | case4 l c cs h₁ h₂ ih =>
    have hb := ne_backslash h₁ h₂
    rw [closeChunk_cons hb] at h
    split at h
    · rename_i next hnext
      obtain ⟨⟨body', rest'⟩, hclose, he⟩ := Option.map_eq_some_iff.mp h
      obtain ⟨rfl, rfl⟩ := Prod.mk.inj he
      rw [List.singleton_append, levelBehind?_cons hb, hnext]
      exact ih next hclose
    · rename_i hnone
      cases h
      rw [(Level.next?_eq_none hnone).1]
      rfl

/-- **A body ends** at the closing brace that the search meets at the entry's own level. -/
theorem closeChunk_eq_some_iff {l : Level} {cs body rest : List Char} :
    closeChunk l.depth l.inQuote cs = some (body, rest) ↔
      cs = body ++ '\x7d' :: rest ∧ levelBehind? l body = some .top := by
  constructor
  · exact fun h => ⟨eq_of_closeChunk h, levelBehind?_of_closeChunk h⟩
  · rintro ⟨rfl, hbody⟩
    rw [crosses_of_levelBehind? hbody]
    simp only [Level.top, closeChunk_close, Option.map_some, behind, List.append_nil]

/-! ## The search by offsets -/

theorem sliceChars_succ {text : List Char} {start i : Nat} {c : Char} (hi : start ≤ i)
    (hc : text[i]? = some c) :
    Text.sliceChars text start (i + 1) = Text.sliceChars text start i ++ [c] := by
  have hone : Text.sliceChars text i (i + 1) = [c] := by
    rw [Text.sliceChars, List.drop_take, Nat.add_sub_cancel_left]
    obtain ⟨hlt, rfl⟩ := List.getElem?_eq_some_iff.mp hc
    rw [List.drop_eq_getElem_cons hlt, List.take_succ_cons, List.take_zero]
  rw [← Text.sliceChars_append text hi (Nat.le_succ i), hone]

/-- What a visit says about the text that was passed over. -/
theorem levelBehind?_of_visits {text : List Char} {start i : Nat} {l : Level}
    (h : Visits text start i l) (hi : i ≤ text.length) :
    start ≤ i ∧ levelBehind? .top (Text.sliceChars text start i) = some l := by
  induction h with
  | start =>
    refine ⟨Nat.le_refl _, ?_⟩
    rw [Text.sliceChars, List.drop_take, Nat.sub_self, List.take_zero]
    rfl
  | @escaped i l _ hc ih =>
    obtain ⟨hle, hlevel⟩ := ih (by omega)
    have hlt : i + 1 < text.length := by omega
    rw [sliceChars_succ (Nat.le_succ_of_le hle) (List.getElem?_eq_getElem hlt),
      sliceChars_succ hle hc, List.append_assoc, levelBehind?_append hlevel]
    exact ⟨by omega, rfl⟩
  | next _ hc hb hl ih =>
    obtain ⟨hle, hlevel⟩ := ih (by omega)
    rw [sliceChars_succ hle hc, levelBehind?_append hlevel, levelBehind?_cons hb, hl]
    exact ⟨by omega, rfl⟩

/-- From a visit the search goes on through a text to the level behind it. -/
theorem Visits.through {text : List Char} {start i : Nat} {l l' : Level} {as bs : List Char}
    (h : Visits text start i l) (hdrop : text.drop i = as ++ bs)
    (has : levelBehind? l as = some l') : Visits text start (i + as.length) l' := by
  fun_induction levelBehind? l as generalizing i with
  | case1 l =>
    cases has
    exact h
  | case2 => cases has
  | case3 l c cs ih =>
    have hat : text[i]? = some '\\' := by
      rw [← List.head?_drop, hdrop, List.cons_append, List.head?_cons]
    have hdrop' : text.drop (i + 2) = cs ++ bs := by
      rw [← List.drop_drop, hdrop]
      rfl
    have hlen : i + ('\\' :: c :: cs).length = i + 2 + cs.length := by
      simp only [List.length_cons]
      omega
    rw [hlen]
    exact ih (h.escaped hat) hdrop' has
  | case4 l c cs h₁ h₂ ih =>
    obtain ⟨next, hnext, hcs⟩ := Option.bind_eq_some_iff.mp has
    have hat : text[i]? = some c := by
      rw [← List.head?_drop, hdrop, List.cons_append, List.head?_cons]
    have hdrop' : text.drop (i + 1) = cs ++ bs := by
      rw [← List.drop_drop, hdrop]
      rfl
    have hlen : i + (c :: cs).length = i + 1 + cs.length := by
      rw [List.length_cons]
      omega
    rw [hlen]
    exact ih next (h.next hat (ne_backslash h₁ h₂) hnext) hdrop' hcs

/-- **An offset is visited** at the level behind the text before it. -/
theorem visits_iff {text : List Char} {start i : Nat} {l : Level} (hi : i ≤ text.length) :
    Visits text start i l ↔
      start ≤ i ∧ levelBehind? .top (Text.sliceChars text start i) = some l := by
  refine ⟨fun h => levelBehind?_of_visits h hi, fun ⟨hle, hlevel⟩ => ?_⟩
  have hdrop : text.drop start = Text.sliceChars text start i ++ text.drop i := by
    rw [← Text.sliceChars_length text start, ← Text.sliceChars_append text hle hi,
      Text.sliceChars_length]
  have h := Visits.start.through hdrop hlevel
  rwa [Text.length_sliceChars hi, Nat.add_sub_cancel' hle] at h

/-- **An entry ends** at the closing brace that is visited at its own level. -/
theorem chunkEnd?_eq_some_iff {text : List Char} {start close : Nat} :
    chunkEnd? text start = some close ↔
      text[close]? = some '\x7d' ∧ Visits text start close .top := by
  constructor
  · intro h
    refine ⟨(chunkEnd?_spec h).2, ?_⟩
    obtain ⟨⟨body, rest⟩, hclose, rfl⟩ := Option.map_eq_some_iff.mp h
    exact Visits.start.through (eq_of_closeChunk hclose)
      (levelBehind?_of_closeChunk (l := .top) hclose)
  · rintro ⟨hbrace, hvisit⟩
    have hlt : close < text.length := (List.getElem?_eq_some_iff.mp hbrace).1
    obtain ⟨hle, hlevel⟩ := levelBehind?_of_visits hvisit (Nat.le_of_lt hlt)
    have hdrop : text.drop start =
        Text.sliceChars text start close ++ '\x7d' :: text.drop (close + 1) := by
      rw [← Text.sliceChars_length text start,
        ← Text.sliceChars_append text hle (Nat.le_of_lt hlt), Text.sliceChars_length,
        List.drop_eq_getElem_cons hlt, (List.getElem?_eq_some_iff.mp hbrace).2]
    have hclose := closeChunk_eq_some_iff.mpr ⟨hdrop, hlevel⟩
    rw [chunkEnd?_eq_some hclose, Text.length_sliceChars (Nat.le_of_lt hlt),
      Nat.add_sub_cancel' hle]

/-! ## Level texts -/

/-- What may stand in a group: further groups, and whatever else opens and closes none. -/
inductive NestedText : List Char → Prop
  | nil : NestedText []
  | plain {c : Char} {cs : List Char} (hc : isPlain c = true) (hb : c ≠ '\\')
      (hcs : NestedText cs) : NestedText (c :: cs)
  | escaped {c : Char} {cs : List Char} (hcs : NestedText cs) : NestedText ('\\' :: c :: cs)
  | group {g cs : List Char} (hg : NestedText g) (hcs : NestedText cs) :
      NestedText ('\x7b' :: (g ++ '\x7d' :: cs))

/-- What may stand in a quoted value: groups, and whatever else neither opens one nor closes the
value. A closing brace that closes no group may stand there as well. -/
inductive QuotedText : List Char → Prop
  | nil : QuotedText []
  | plain {c : Char} {cs : List Char} (ho : c ≠ '\x7b') (hq : c ≠ '"') (hb : c ≠ '\\')
      (hcs : QuotedText cs) : QuotedText (c :: cs)
  | escaped {c : Char} {cs : List Char} (hcs : QuotedText cs) : QuotedText ('\\' :: c :: cs)
  | group {g cs : List Char} (hg : NestedText g) (hcs : QuotedText cs) :
      QuotedText ('\x7b' :: (g ++ '\x7d' :: cs))

/-- What stands between two offsets of the entry's own level: quoted values and groups that are
closed, and whatever else opens and closes none. -/
inductive LevelText : List Char → Prop
  | nil : LevelText []
  | plain {c : Char} {cs : List Char} (hc : isPlain c = true) (hb : c ≠ '\\') (hq : c ≠ '"')
      (hcs : LevelText cs) : LevelText (c :: cs)
  | escaped {c : Char} {cs : List Char} (hcs : LevelText cs) : LevelText ('\\' :: c :: cs)
  | group {g cs : List Char} (hg : NestedText g) (hcs : LevelText cs) :
      LevelText ('\x7b' :: (g ++ '\x7d' :: cs))
  | quoted {v cs : List Char} (hv : QuotedText v) (hcs : LevelText cs) :
      LevelText ('"' :: (v ++ '"' :: cs))

/-! ## Through level texts -/

theorem Level.next?_open (d : Nat) (q : Bool) :
    Level.next? ⟨d, q⟩ '\x7b' = some ⟨d + 1, q⟩ := rfl

theorem Level.next?_close (d : Nat) (q : Bool) :
    Level.next? ⟨d + 1, q⟩ '\x7d' = some ⟨d, q⟩ := rfl

theorem Level.next?_quote (q : Bool) : Level.next? ⟨0, q⟩ '"' = some ⟨0, !q⟩ := rfl

/-- Below the entry's own level quotes count for nothing. -/
theorem Level.next?_nested {c : Char} (hc : isPlain c = true) (d : Nat) (q : Bool) :
    Level.next? ⟨d + 1, q⟩ c = some ⟨d + 1, q⟩ := by
  obtain ⟨ho, hcl⟩ := ne_of_isPlain hc
  unfold Level.next?
  rw [if_neg ho, if_neg hcl, if_neg fun h => nomatch h.2]

theorem Level.next?_plain {c : Char} (hc : isPlain c = true) (hq : c ≠ '"') (l : Level) :
    l.next? c = some l := by
  obtain ⟨ho, hcl⟩ := ne_of_isPlain hc
  unfold Level.next?
  rw [if_neg ho, if_neg hcl, if_neg fun h => hq h.1]

theorem Level.next?_quoted {c : Char} (ho : c ≠ '\x7b') (hq : c ≠ '"') :
    Level.next? ⟨0, true⟩ c = some ⟨0, true⟩ := by
  unfold Level.next?
  rw [if_neg ho]
  split
  · rfl
  · rw [if_neg fun h => hq h.1]

/-- A group leaves the level as it was. -/
theorem levelBehind?_group {d : Nat} {q : Bool} {g : List Char}
    (hg : levelBehind? ⟨d + 1, q⟩ g = some ⟨d + 1, q⟩) (cs : List Char) :
    levelBehind? ⟨d, q⟩ ('\x7b' :: (g ++ '\x7d' :: cs)) = levelBehind? ⟨d, q⟩ cs := by
  rw [levelBehind?_cons (by decide), Level.next?_open, Option.bind_some, levelBehind?_append hg,
    levelBehind?_cons (by decide), Level.next?_close, Option.bind_some]

theorem levelBehind?_of_nested {g : List Char} (hg : NestedText g) (d : Nat) (q : Bool) :
    levelBehind? ⟨d + 1, q⟩ g = some ⟨d + 1, q⟩ := by
  induction hg generalizing d with
  | nil => rfl
  | plain hc hb _ ih => rw [levelBehind?_cons hb, Level.next?_nested hc, Option.bind_some, ih]
  | escaped _ ih => exact ih d
  | group _ _ ihg ihcs => rw [levelBehind?_group (ihg (d + 1)), ihcs]

theorem levelBehind?_of_quoted {v : List Char} (hv : QuotedText v) :
    levelBehind? ⟨0, true⟩ v = some ⟨0, true⟩ := by
  induction hv with
  | nil => rfl
  | plain ho hq hb _ ih => rw [levelBehind?_cons hb, Level.next?_quoted ho hq, Option.bind_some, ih]
  | escaped _ ih => exact ih
  | group hg _ ih => rw [levelBehind?_group (levelBehind?_of_nested hg 0 true), ih]

theorem levelBehind?_of_level {cs : List Char} (h : LevelText cs) :
    levelBehind? .top cs = some .top := by
  induction h with
  | nil => rfl
  | plain hc hb hq _ ih => rw [levelBehind?_cons hb, Level.next?_plain hc hq, Option.bind_some, ih]
  | escaped _ ih => exact ih
  | group hg _ ih =>
    rw [Level.top, levelBehind?_group (levelBehind?_of_nested hg 0 false)]
    exact ih
  | quoted hv _ ih =>
    rw [Level.top, levelBehind?_cons (by decide), Level.next?_quote, Option.bind_some,
      Bool.not_false, levelBehind?_append (levelBehind?_of_quoted hv),
      levelBehind?_cons (by decide), Level.next?_quote, Option.bind_some]
    exact ih

/-! ## Level texts are all there is -/

/-- How the search can begin a text. -/
theorem levelBehind?_cases {l l' : Level} {cs : List Char} (h : levelBehind? l cs = some l') :
    (cs = [] ∧ l = l') ∨ (∃ c rest, cs = '\\' :: c :: rest ∧ levelBehind? l rest = some l') ∨
      ∃ c rest, cs = c :: rest ∧ c ≠ '\\' ∧
        ((l.next? c).bind fun next => levelBehind? next rest) = some l' := by
  unfold levelBehind? at h
  split at h
  · exact .inl ⟨rfl, Option.some.inj h⟩
  · cases h
  · exact .inr (.inl ⟨_, _, rfl, h⟩)
  · rename_i c rest h₁ h₂
    exact .inr (.inr ⟨c, rest, rfl, ne_backslash h₁ h₂, h⟩)

/-- A level outside the group that is open is reached through the end of the group. The induction
is on a bound of the length, as a group within ends before the rest is looked at. -/
theorem exists_group_of_levelBehind? {q : Bool} {l : Level} (n : Nat) {d : Nat} {cs : List Char}
    (hn : cs.length ≤ n) (h : levelBehind? ⟨d + 1, q⟩ cs = some l) (hl : l.depth ≤ d) :
    ∃ g rest, NestedText g ∧ cs = g ++ '\x7d' :: rest ∧ levelBehind? ⟨d, q⟩ rest = some l := by
  induction n generalizing d cs with
  | zero =>
    rw [List.eq_nil_of_length_eq_zero (Nat.le_zero.mp hn)] at h
    cases h
    exact absurd hl (Nat.not_succ_le_self d)
  | succ n ih =>
    obtain ⟨rfl, rfl⟩ | ⟨c, cs, rfl, hcs⟩ | ⟨c, cs, rfl, hb, hcs⟩ := levelBehind?_cases h
    · exact absurd hl (Nat.not_succ_le_self d)
    · simp only [List.length_cons] at hn
      obtain ⟨g, rest, hg, rfl, hrest⟩ := ih (by omega) hcs hl
      exact ⟨_, rest, .escaped hg, rfl, hrest⟩
    · rw [List.length_cons] at hn
      by_cases ho : c = '\x7b'
      · -- The group within ends first; what stands behind it ends the group that was open.
        rw [ho, Level.next?_open, Option.bind_some] at hcs
        obtain ⟨g, rest, hg, rfl, hrest⟩ := ih (by omega) hcs (Nat.le_succ_of_le hl)
        rw [List.length_append, List.length_cons] at hn
        obtain ⟨g', rest', hg', rfl, hrest'⟩ := ih (by omega) hrest hl
        refine ⟨_, rest', .group hg hg', ?_, hrest'⟩
        rw [ho, List.cons_append, List.append_assoc, List.cons_append]
      · by_cases hcl : c = '\x7d'
        · rw [hcl, Level.next?_close, Option.bind_some] at hcs
          exact ⟨[], cs, .nil, by rw [hcl, List.nil_append], hcs⟩
        · have hc := isPlain_of_ne ho hcl
          rw [Level.next?_nested hc, Option.bind_some] at hcs
          obtain ⟨g, rest, hg, rfl, hrest⟩ := ih (by omega) hcs hl
          exact ⟨_, rest, .plain hc hb hg, rfl, hrest⟩

/-- The entry's own level is reached from a quoted value through its end. -/
theorem exists_quoted_of_levelBehind? (n : Nat) {cs : List Char} (hn : cs.length ≤ n)
    (h : levelBehind? ⟨0, true⟩ cs = some .top) :
    ∃ v rest, QuotedText v ∧ cs = v ++ '"' :: rest ∧ levelBehind? .top rest = some .top := by
  induction n generalizing cs with
  | zero =>
    rw [List.eq_nil_of_length_eq_zero (Nat.le_zero.mp hn)] at h
    cases h
  | succ n ih =>
    obtain ⟨rfl, hl⟩ | ⟨c, cs, rfl, hcs⟩ | ⟨c, cs, rfl, hb, hcs⟩ := levelBehind?_cases h
    · cases hl
    · simp only [List.length_cons] at hn
      obtain ⟨v, rest, hv, rfl, hrest⟩ := ih (by omega) hcs
      exact ⟨_, rest, .escaped hv, rfl, hrest⟩
    · rw [List.length_cons] at hn
      by_cases ho : c = '\x7b'
      · rw [ho, Level.next?_open, Option.bind_some] at hcs
        obtain ⟨g, rest, hg, rfl, hrest⟩ :=
          exists_group_of_levelBehind? cs.length (Nat.le_refl _) hcs (Nat.le_refl 0)
        rw [List.length_append, List.length_cons] at hn
        obtain ⟨v, rest', hv, rfl, hrest'⟩ := ih (by omega) hrest
        refine ⟨_, rest', .group hg hv, ?_, hrest'⟩
        rw [ho, List.cons_append, List.append_assoc, List.cons_append]
      · by_cases hq : c = '"'
        · rw [hq, Level.next?_quote, Option.bind_some] at hcs
          exact ⟨[], cs, .nil, by rw [hq, List.nil_append], hcs⟩
        · rw [Level.next?_quoted ho hq, Option.bind_some] at hcs
          obtain ⟨v, rest, hv, rfl, hrest⟩ := ih (by omega) hcs
          exact ⟨_, rest, .plain ho hq hb hv, rfl, hrest⟩

theorem levelText_of_levelBehind? (n : Nat) {cs : List Char} (hn : cs.length ≤ n)
    (h : levelBehind? .top cs = some .top) : LevelText cs := by
  induction n generalizing cs with
  | zero =>
    rw [List.eq_nil_of_length_eq_zero (Nat.le_zero.mp hn)]
    exact .nil
  | succ n ih =>
    obtain ⟨rfl, -⟩ | ⟨c, cs, rfl, hcs⟩ | ⟨c, cs, rfl, hb, hcs⟩ := levelBehind?_cases h
    · exact .nil
    · simp only [List.length_cons] at hn
      exact .escaped (ih (by omega) hcs)
    · rw [List.length_cons] at hn
      by_cases ho : c = '\x7b'
      · rw [ho, Level.top, Level.next?_open, Option.bind_some] at hcs
        obtain ⟨g, rest, hg, rfl, hrest⟩ :=
          exists_group_of_levelBehind? cs.length (Nat.le_refl _) hcs (Nat.le_refl 0)
        rw [List.length_append, List.length_cons] at hn
        exact ho ▸ .group hg (ih (by omega) hrest)
      · by_cases hq : c = '"'
        · rw [hq, Level.top, Level.next?_quote, Option.bind_some] at hcs
          obtain ⟨v, rest, hv, rfl, hrest⟩ :=
            exists_quoted_of_levelBehind? cs.length (Nat.le_refl _) hcs
          rw [List.length_append, List.length_cons] at hn
          exact hq ▸ .quoted hv (ih (by omega) hrest)
        · have hcl : c ≠ '\x7d' := by
            rintro rfl
            cases h
          have hc := isPlain_of_ne ho hcl
          rw [Level.next?_plain hc hq, Option.bind_some] at hcs
          exact .plain hc hb hq (ih (by omega) hcs)

/-- **The search goes from the entry's own level back to it** through exactly the level texts. -/
theorem levelBehind?_top_iff (cs : List Char) :
    levelBehind? .top cs = some .top ↔ LevelText cs :=
  ⟨levelText_of_levelBehind? cs.length (Nat.le_refl _), levelBehind?_of_level⟩

instance (cs : List Char) : Decidable (LevelText cs) :=
  decidable_of_iff _ (levelBehind?_top_iff cs)

theorem LevelText.append {as bs : List Char} (has : LevelText as) (hbs : LevelText bs) :
    LevelText (as ++ bs) := by
  rw [← levelBehind?_top_iff, levelBehind?_append (levelBehind?_of_level has)]
  exact levelBehind?_of_level hbs

/-- **The entry's own level is visited** at the offsets that have a level text before them. -/
theorem visits_top_iff {text : List Char} {start i : Nat} (hi : i ≤ text.length) :
    Visits text start i .top ↔ start ≤ i ∧ LevelText (Text.sliceChars text start i) := by
  rw [visits_iff hi, levelBehind?_top_iff]

end CiteSieve.Bibtex
