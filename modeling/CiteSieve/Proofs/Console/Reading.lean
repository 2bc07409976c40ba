import CiteSieve.Console.Markup
import Mathlib.Data.List.Infix

/-!
# How a text with tags is read

The characters of a text are read from left to right, the backslashes before a character being
counted. A tag is a pair of brackets around a text that begins as tags do; it is taken out, or it
is text if an odd number of backslashes stands before it. What is shown is never longer than the
text, backslashes apart.

* `tag?_eq_some_iff`: what a tag is; `tags_induction`: induction that passes a tag as a whole.
* `Reads`: what is shown of the characters from a position on; `reads_nil`, `reads_slash`,
  `reads_char`, `reads_bracket`, `reads_plainTag`, `reads_tag`: one law for each thing that can
  stand there.
* `shown_eq_ok_iff`: what is shown of a text.
-/

namespace CiteSieve.Console

/-! ## Tags -/

theorem untilBracket_eq_some_iff : ∀ {cs text rest : List Char},
    untilBracket cs = some (text, rest) ↔
      cs = text ++ ']' :: rest ∧ ∀ c ∈ text, c ≠ ']' ∧ c ≠ '['
  | [], text, rest => by simp [untilBracket]
  | c :: cs, text, rest => by
    rw [untilBracket]
    by_cases hclose : c = ']'
    · rw [if_pos hclose]
      cases text with
      | nil => simp [hclose]
      | cons d text =>
        refine iff_of_false (by simp) ?_
        rintro ⟨hsplit, htext⟩
        exact (htext d List.mem_cons_self).1 ((List.cons.inj hsplit).1 ▸ hclose)
    rw [if_neg hclose]
    by_cases hopen : c = '['
    · rw [if_pos hopen]
      refine iff_of_false nofun ?_
      rintro ⟨hsplit, htext⟩
      cases text with
      | nil => exact hclose (List.cons.inj hsplit).1
      | cons d text =>
        exact (htext d List.mem_cons_self).2 ((List.cons.inj hsplit).1 ▸ hopen)
    rw [if_neg hopen, Option.map_eq_some_iff]
    constructor
    · rintro ⟨⟨text', rest'⟩, h, heq⟩
      cases heq
      obtain ⟨rfl, htext⟩ := untilBracket_eq_some_iff.mp h
      exact ⟨rfl, List.forall_mem_cons.mpr ⟨⟨hclose, hopen⟩, htext⟩⟩
    · rintro ⟨hsplit, htext⟩
      cases text with
      | nil => exact absurd (List.cons.inj hsplit).1 hclose
      | cons d text =>
        obtain ⟨rfl, hcs⟩ := List.cons.inj hsplit
        exact ⟨(text, rest), untilBracket_eq_some_iff.mpr
          ⟨hcs, (List.forall_mem_cons.mp htext).2⟩, rfl⟩

/-- A text with brackets around it is a tag: it begins as tags do, and holds no bracket. -/
structure IsTag (text : List Char) : Prop where
  starts : text.head?.any startsTag = true
  within : ∀ c ∈ text, c ≠ ']' ∧ c ≠ '['

theorem ne_of_startsTag {c d : Char} (hc : startsTag c = true) (hd : startsTag d = false) : c ≠ d :=
  fun he => absurd (he ▸ hc) (by rw [hd]; exact Bool.false_ne_true)

/-- **What a tag is.** -/
theorem tag?_eq_some_iff {cs text rest : List Char} :
    tag? cs = some (text, rest) ↔ cs = '[' :: (text ++ ']' :: rest) ∧ IsTag text := by
  rcases cs with _ | ⟨b, _ | ⟨c, cs⟩⟩
  · exact iff_of_false nofun fun h => absurd h.1 (by simp)
  · refine iff_of_false nofun ?_
    rintro ⟨hsplit, -⟩
    exact absurd (List.cons.inj hsplit).2 (by simp)
  · rw [tag?]
    by_cases hstart : b = '[' ∧ startsTag c = true
    · rw [if_pos hstart, Option.map_eq_some_iff]
      obtain ⟨rfl, hc⟩ := hstart
      constructor
      · rintro ⟨⟨text', rest'⟩, h, heq⟩
        cases heq
        obtain ⟨rfl, htext⟩ := untilBracket_eq_some_iff.mp h
        exact ⟨rfl, hc, List.forall_mem_cons.mpr
          ⟨⟨ne_of_startsTag hc (by decide), ne_of_startsTag hc (by decide)⟩, htext⟩⟩
      · rintro ⟨hsplit, hstarts, hwithin⟩
        cases text with
        | nil => exact absurd hstarts Bool.false_ne_true
        | cons d text =>
          obtain ⟨rfl, hcs⟩ := List.cons.inj (List.cons.inj hsplit).2
          exact ⟨(text, rest), untilBracket_eq_some_iff.mpr
            ⟨hcs, (List.forall_mem_cons.mp hwithin).2⟩, rfl⟩
    · rw [if_neg hstart]
      refine iff_of_false nofun ?_
      rintro ⟨hsplit, hstarts, -⟩
      cases text with
      | nil => exact absurd hstarts Bool.false_ne_true
      | cons d text =>
        obtain ⟨rfl, htail⟩ := List.cons.inj hsplit
        obtain ⟨rfl, -⟩ := List.cons.inj htail
        exact hstart ⟨rfl, hstarts⟩

theorem tag?_of_isTag {text : List Char} (h : IsTag text) (rest : List Char) :
    tag? ('[' :: (text ++ ']' :: rest)) = some (text, rest) :=
  tag?_eq_some_iff.mpr ⟨rfl, h⟩

/-- Only an opening bracket begins a tag. -/
theorem tag?_of_ne {c : Char} (hc : c ≠ '[') (cs : List Char) : tag? (c :: cs) = none := by
  cases cs with
  | nil => rfl
  | cons d cs => exact if_neg fun h => hc h.1

theorem length_lt_of_tag? {cs text rest : List Char} (htag : tag? cs = some (text, rest)) :
    rest.length < cs.length := by
  rw [(tag?_eq_some_iff.mp htag).1, List.length_cons, List.length_append, List.length_cons]
  omega

/-- **Induction along a text and its tags:** a tag is passed as a whole. -/
theorem tags_induction {motive : List Char → Prop}
    (nil : motive [])
    (slash : ∀ cs, motive cs → motive ('\\' :: cs))
    (char : ∀ c cs, c ≠ '\\' → tag? (c :: cs) = none → motive cs → motive (c :: cs))
    (tag : ∀ text rest, IsTag text → motive rest → motive ('[' :: (text ++ ']' :: rest)))
    (cs : List Char) : motive cs := by
  induction hlen : cs.length using Nat.strongRecOn generalizing cs with
  | ind len ih =>
    cases cs with
    | nil => exact nil
    | cons c cs =>
      have hcs : cs.length < len := hlen ▸ Nat.lt_succ_self _
      by_cases hslash : c = '\\'
      · exact hslash ▸ slash cs (ih _ hcs cs rfl)
      · cases htag : tag? (c :: cs) with
        | none => exact char c cs hslash htag (ih _ hcs cs rfl)
        | some found =>
          obtain ⟨text, rest⟩ := found
          obtain ⟨hsplit, htext⟩ := tag?_eq_some_iff.mp htag
          rw [hsplit]
          exact tag text rest htext (ih _ (hlen ▸ length_lt_of_tag? htag) rest rfl)

/-! ## Pieces -/

/-- A number of backslashes. -/
abbrev slashes (n : Nat) : List Char :=
  List.replicate n '\\'

theorem slashes_cons (n : Nat) (cs : List Char) :
    slashes n ++ '\\' :: cs = slashes (n + 1) ++ cs := by
  rw [slashes, slashes, List.replicate_succ', List.append_assoc, List.singleton_append]

/-- Backslashes before another character are counted in one way. -/
theorem slashes_inj {m n : Nat} {c d : Char} (hc : c ≠ '\\') (hd : d ≠ '\\') {cs ds : List Char} :
    slashes m ++ c :: cs = slashes n ++ d :: ds ↔ m = n ∧ c = d ∧ cs = ds := by
  constructor
  · intro h
    induction m generalizing n with
    | zero =>
      cases n with
      | zero => exact ⟨rfl, List.cons.inj h⟩
      | succ n => exact absurd (List.cons.inj h).1 hc
    | succ m ih =>
      cases n with
      | zero => exact absurd (List.cons.inj h).1.symm hd
      | succ n =>
        obtain ⟨rfl, heq⟩ := ih (List.cons.inj h).2
        exact ⟨rfl, heq⟩
  · rintro ⟨rfl, rfl, rfl⟩
    rfl

/-- Fuel for more characters than there are changes nothing. -/
theorem piecesFrom_fuel : ∀ {fuel fuel' : Nat} (position n : Nat) {cs : List Char},
    cs.length < fuel → cs.length < fuel' →
    piecesFrom fuel position n cs = piecesFrom fuel' position n cs
  | fuel + 1, fuel' + 1, _, _, [], _, _ => rfl
  | fuel + 1, fuel' + 1, position, n, c :: cs, h, h' => by
    have hcs : cs.length < fuel := Nat.lt_of_succ_lt_succ h
    have hcs' : cs.length < fuel' := Nat.lt_of_succ_lt_succ h'
    rw [piecesFrom, piecesFrom]
    split
    · exact piecesFrom_fuel _ _ hcs hcs'
    · split
      · rename_i text rest htag
        have hrest := length_lt_of_tag? htag
        rw [List.length_cons] at hrest
        rw [piecesFrom_fuel _ _ (by omega : rest.length < fuel) (by omega : rest.length < fuel')]
      · rw [piecesFrom_fuel _ _ hcs hcs']

/-- With the names of `stack` set, `shown` is what is shown of the characters from `position` on,
`n` backslashes standing before them. -/
def Reads (stack : List String) (position n : Nat) (cs shown : List Char) : Prop :=
  showPieces stack (piecesFrom (cs.length + 1) position n cs) = .ok shown

/-- **What is shown of a text.** -/
theorem shown_eq_ok_iff {s t : String} : shown s = .ok t ↔ Reads [] 0 0 s.toList t.toList := by
  unfold shown Reads pieces
  cases showPieces [] (piecesFrom (s.toList.length + 1) 0 0 s.toList) with
  | error e => exact iff_of_false nofun nofun
  | ok cs =>
    rw [Except.map, Except.ok.injEq, Except.ok.injEq]
    constructor
    · rintro rfl
      rw [String.toList_ofList]
    · rintro rfl
      rw [String.ofList_toList]

section Laws

variable {stack : List String} {position n : Nat} {c : Char} {cs text rest shown : List Char}

/-- The characters that are shown. -/
abbrev visible (cs : List Char) : List Char :=
  cs.filter fun c => !isHidden c

theorem visible_slashes (n : Nat) : visible (slashes n) = slashes n :=
  List.filter_eq_self.mpr fun c hc => by rw [List.eq_of_mem_replicate hc]; decide

theorem visible_append (as bs : List Char) : visible (as ++ bs) = visible as ++ visible bs :=
  List.filter_append as bs

theorem visible_singleton (h : isHidden c = false) : visible [c] = [c] :=
  List.filter_eq_self.mpr (List.forall_mem_singleton.mpr (by simp [h]))

theorem showPieces_plain {ps : List Piece} : showPieces stack (.plain text :: ps) = .ok shown ↔
    ∃ after, showPieces stack ps = .ok after ∧ shown = visible text ++ after := by
  rw [showPieces]
  cases showPieces stack ps with
  | error e =>
    constructor
    · intro h
      cases h
    · rintro ⟨_, h, -⟩
      cases h
  | ok after =>
    rw [Except.map, Except.ok.injEq]
    constructor
    · rintro rfl
      exact ⟨after, rfl, rfl⟩
    · rintro ⟨_, heq, rfl⟩
      rw [Except.ok.inj heq]

theorem exists_showPieces_of_tag {ps : List Piece}
    (h : showPieces stack (.tag position text :: ps) = .ok shown) :
    ∃ stack', showPieces stack' ps = .ok shown := by
  rw [showPieces] at h
  split at h
  · dsimp only at h
    split at h
    · exact ⟨_, h⟩
    · cases h
  · exact ⟨_, h⟩

theorem reads_nil : Reads stack position n [] shown ↔ shown = slashes n := by
  unfold Reads
  rw [piecesFrom, showPieces_plain]
  constructor
  · rintro ⟨after, hafter, rfl⟩
    rw [← Except.ok.inj hafter, List.append_nil, visible_slashes]
  · rintro rfl
    exact ⟨[], rfl, by rw [List.append_nil, visible_slashes]⟩

theorem reads_slash : Reads stack position n ('\\' :: cs) shown ↔
    Reads stack (position + 1) (n + 1) cs shown := by
  unfold Reads
  rw [List.length_cons, piecesFrom, if_pos rfl]

theorem reads_slashes (m : Nat) : Reads stack position n (slashes m ++ cs) shown ↔
    Reads stack (position + m) (n + m) cs shown := by
  induction m generalizing position n with
  | zero => exact Iff.rfl
  | succ m ih =>
    rw [slashes, List.replicate_succ, List.cons_append, reads_slash, ih,
      Nat.add_right_comm position, Nat.add_right_comm n, Nat.add_assoc position, Nat.add_assoc n]

theorem reads_only_slashes (m : Nat) :
    Reads stack position n (slashes m) shown ↔ shown = slashes (n + m) := by
  rw [← List.append_nil (slashes m), reads_slashes, reads_nil]

/-- A character that begins no tag. -/
theorem reads_of_tag?_none (hc : c ≠ '\\') (htag : tag? (c :: cs) = none) :
    Reads stack position n (c :: cs) shown ↔ ∃ after, Reads stack (position + 1) 0 cs after ∧
      shown = visible (slashes (if c = '[' then n - 1 else n) ++ [c]) ++ after := by
  unfold Reads
  rw [List.length_cons, piecesFrom, if_neg hc, htag, showPieces_plain]

/-- **A character** is shown behind its backslashes, if it can be seen. -/
theorem reads_char (hc : c ≠ '\\') (hbracket : c ≠ '[') :
    Reads stack position n (c :: cs) shown ↔
      ∃ after, Reads stack (position + 1) 0 cs after ∧
        shown = slashes n ++ visible [c] ++ after := by
  rw [reads_of_tag?_none hc (tag?_of_ne hbracket cs), if_neg hbracket]
  simp only [visible_append, visible_slashes]

/-- **A bracket that begins no tag** loses a backslash. -/
theorem reads_bracket (htag : tag? ('[' :: cs) = none) :
    Reads stack position n ('[' :: cs) shown ↔
      ∃ after, Reads stack (position + 1) 0 cs after ∧ shown = slashes (n - 1) ++ '[' :: after := by
  have hvisible : visible ['['] = ['['] := by decide
  rw [reads_of_tag?_none (by decide) htag, if_pos rfl]
  simp only [visible_append, visible_slashes, hvisible, List.append_assoc,
    List.singleton_append]

/-- The characters behind a tag are read with enough fuel. -/
theorem reads_behind_tag (htag : tag? (c :: cs) = some (text, rest)) :
    showPieces stack (piecesFrom (cs.length + 1) position 0 rest) = .ok shown ↔
      Reads stack position 0 rest shown := by
  have hrest := length_lt_of_tag? htag
  rw [List.length_cons] at hrest
  unfold Reads
  rw [piecesFrom_fuel position 0 hrest (Nat.lt_succ_self _)]

/-- **A tag behind an odd number of backslashes** is shown behind half of the others. -/
theorem reads_plainTag (htag : tag? ('[' :: cs) = some (text, rest))
    (hodd : n % 2 = 1) : Reads stack position n ('[' :: cs) shown ↔
      ∃ after, Reads stack (position + text.length + 2) 0 rest after ∧
        shown = slashes (n / 2) ++ (visible ('[' :: text ++ [']']) ++ after) := by
  have hpieces : Reads stack position n ('[' :: cs) shown ↔
      showPieces stack (.plain (slashes (n / 2)) :: .plain ('[' :: text ++ [']']) ::
        piecesFrom (cs.length + 1) (position + text.length + 2) 0 rest) = .ok shown := by
    unfold Reads
    rw [List.length_cons, piecesFrom, if_neg (by decide), htag]
    dsimp only
    rw [if_pos hodd]
  rw [hpieces, showPieces_plain]
  constructor
  · rintro ⟨_, hafter, rfl⟩
    obtain ⟨after, hrest, rfl⟩ := showPieces_plain.mp hafter
    exact ⟨after, (reads_behind_tag htag).mp hrest, by rw [visible_slashes]⟩
  · rintro ⟨after, hrest, rfl⟩
    refine ⟨_, showPieces_plain.mpr ⟨after, (reads_behind_tag htag).mpr hrest, rfl⟩, ?_⟩
    rw [visible_slashes]

/-- **Any other tag** is taken out. -/
theorem reads_tag (htag : tag? ('[' :: cs) = some (text, rest)) (heven : n % 2 ≠ 1)
    (h : Reads stack position n ('[' :: cs) shown) :
    ∃ stack' after, Reads stack' (position + text.length + 2) 0 rest after ∧
      shown = slashes (n / 2) ++ after := by
  unfold Reads at h
  rw [List.length_cons, piecesFrom, if_neg (by decide), htag] at h
  dsimp only at h
  rw [if_neg heven] at h
  obtain ⟨after, hafter, rfl⟩ := showPieces_plain.mp h
  obtain ⟨stack', hafter⟩ := exists_showPieces_of_tag hafter
  exact ⟨stack', after, (reads_behind_tag htag).mp hafter, by rw [visible_slashes]⟩

end Laws

/-- **Nothing hidden is shown.** -/
theorem visible_of_reads {stack : List String} {position n : Nat} {cs shown : List Char}
    (h : Reads stack position n cs shown) : ∀ c ∈ shown, isHidden c = false := by
  have hpieces : ∀ {ps : List Piece} {stack shown}, showPieces stack ps = .ok shown →
      ∀ c ∈ shown, isHidden c = false := by
    intro ps
    induction ps with
    | nil =>
      intro stack shown h
      cases h
      exact List.forall_mem_nil _
    | cons p ps ih =>
      intro stack shown h
      cases p with
      | plain text =>
        obtain ⟨after, hafter, rfl⟩ := showPieces_plain.mp h
        intro c hc
        rcases List.mem_append.mp hc with hc | hc
        · simpa using (List.mem_filter.mp hc).2
        · exact ih hafter c hc
      | tag position text =>
        obtain ⟨stack', h⟩ := exists_showPieces_of_tag h
        exact ih h
  exact hpieces h

/-! ## Weight -/

/-- The number of characters that are no backslashes. -/
def weight (cs : List Char) : Nat :=
  cs.countP (· ≠ '\\')

theorem weight_append (as bs : List Char) : weight (as ++ bs) = weight as + weight bs :=
  List.countP_append

theorem weight_slashes (n : Nat) : weight (slashes n) = 0 :=
  List.countP_eq_zero.mpr fun c hc => by rw [List.eq_of_mem_replicate hc]; decide

theorem weight_slash (cs : List Char) : weight ('\\' :: cs) = weight cs :=
  List.countP_cons_of_neg (by decide)

theorem weight_cons {c : Char} (hc : c ≠ '\\') (cs : List Char) :
    weight (c :: cs) = weight cs + 1 :=
  List.countP_cons_of_pos (decide_eq_true hc)

theorem weight_visible_le (cs : List Char) : weight (visible cs) ≤ weight cs :=
  List.filter_sublist.countP_le

theorem weight_of_tag? {cs text rest : List Char}
    (htag : tag? cs = some (text, rest)) :
    weight cs = weight ('[' :: text ++ [']']) + weight rest := by
  rw [(tag?_eq_some_iff.mp htag).1, ← weight_append, List.append_assoc,
    List.singleton_append, List.cons_append]

/-- **Nothing is added:** backslashes apart, no more is shown than there is. -/
theorem weight_le_of_reads {stack : List String} {position n : Nat} {cs shown : List Char}
    (h : Reads stack position n cs shown) : weight shown ≤ weight cs := by
  induction cs using tags_induction generalizing stack position n shown with
  | nil =>
    rw [reads_nil.mp h, weight_slashes]
    exact Nat.zero_le _
  | slash cs ih =>
    rw [weight_slash]
    exact ih (reads_slash.mp h)
  | char c cs hslash htag ih =>
    obtain ⟨after, hafter, rfl⟩ := (reads_of_tag?_none hslash htag).mp h
    have hrest := ih hafter
    have hc := weight_visible_le (slashes (if c = '[' then n - 1 else n) ++ [c])
    rw [weight_append, weight_slashes, weight_cons hslash] at hc
    rw [weight_append, weight_cons hslash]
    have hnil : weight [] = 0 := rfl
    omega
  | tag text rest htext ih =>
    have htag := tag?_of_isTag htext rest
    rw [weight_of_tag? htag]
    by_cases hodd : n % 2 = 1
    · obtain ⟨after, hafter, rfl⟩ := (reads_plainTag htag hodd).mp h
      rw [weight_append, weight_append, weight_slashes]
      have htext := weight_visible_le ('[' :: text ++ [']'])
      have hafter' := ih hafter
      omega
    · obtain ⟨stack', after, hafter, rfl⟩ := reads_tag htag hodd h
      rw [weight_append, weight_slashes]
      have hafter' := ih hafter
      omega

end CiteSieve.Console
