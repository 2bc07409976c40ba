import CiteSieve.Proofs.Regex.Joined
import CiteSieve.Proofs.Term.Order
import CiteSieve.Proofs.Term.Words

/-!
# Several terms in one pattern

The plain terms of a block are looked for in one pass. This finds what one search for each term
would: the first of their matches, and where several terms match there, that of the one that comes
first in the order, which is the longest.

* `Finds`: what the pattern of one term finds.
* `exists_alternation`: plain terms have a joined pattern.
* `alternation_search?_iff`: what it finds, by the order of the terms.
* `alternation_finds_first`: it agrees with the patterns of the terms.
-/

namespace CiteSieve.Term

/-- The pattern of the term finds the match, from `start` on. -/
def Finds (term : String) (isRegex caseInsensitive : Bool) (text : String) (start : Nat)
    (m : Regex.Match) : Prop :=
  ∃ p, compile term isRegex caseInsensitive = .ok p ∧ p.search? text start = some m

variable {terms : List String} {isRegex caseInsensitive : Bool} {text : String} {start : Nat}
  {m : Regex.Match}

/-! ## One term -/

/-- The expression of a plain term. -/
def regexOf (isRegex caseInsensitive : Bool) (term : String) : Regex :=
  (scope term isRegex).plainRegex (foldOf caseInsensitive)

theorem finds_iff {term : String} (h : isRegex = true → hasMetachar term = false) :
    Finds term isRegex caseInsensitive text start m ↔
      (regexOf isRegex caseInsensitive term).search? text.toList.toArray 0 start = some m := by
  unfold Finds
  rw [compile_plain h]
  constructor
  · rintro ⟨p, hp, hm⟩
    cases hp
    exact hm
  · exact fun hm => ⟨_, rfl, hm⟩

theorem isPlain_scope {term : String} (h : isRegex = true → hasMetachar term = false) :
    (scope term isRegex).IsPlain := by
  intro source hsource
  obtain ⟨hregex, -⟩ := scope_eq_verbatim hsource
  rw [scope_of_plain h] at hsource
  cases (scope_eq_verbatim hsource).1

/-- A match of a word is as long as the word. -/
theorem stop_of_finds_word {term : String} (h : isRegex = true → hasMetachar term = false)
    (hword : term.toList.getLast? ≠ some '*')
    (hm : Finds term isRegex caseInsensitive text start m) : m.stop = m.start + term.length := by
  rw [finds_iff h, regexOf, scope_of_plain h, scope_of_word hword] at hm
  obtain ⟨i, rfl, -⟩ := (matchesAt_wordRegex _ term.toList text.toList).search?_iff.mp hm
  rw [← String.length_toList]

/-! ## All terms -/

/-- **Plain terms have a joined pattern**, which is that of an expression and runs as the
alternative of theirs. -/
theorem exists_alternation (hplain : ∀ t ∈ terms, isRegex = true → hasMetachar t = false)
    (husable : ∃ t ∈ terms, isUsable t = true) (caseInsensitive : Bool) :
    ∃ p e, alternation terms isRegex caseInsensitive = .ok (some p) ∧
      Regex.parse (Pattern.flags caseInsensitive) p.source = .ok e ∧ p.RunsAs e ∧
      p.groupCount = 0 ∧ ∀ t, p.regex.run t =
        (Regex.ofAlt ((longestFirst terms).map (regexOf isRegex caseInsensitive))).run t := by
  obtain ⟨t, ht, htusable⟩ := husable
  have hmem : t ∈ longestFirst terms := mem_longestFirst_iff.mpr ⟨ht, htusable⟩
  have hscopes : (longestFirst terms).map (regexOf isRegex caseInsensitive) =
      ((longestFirst terms).map (scope · isRegex)).map
        (Scope.plainRegex (foldOf caseInsensitive)) := by
    rw [List.map_map]
    rfl
  have hne : (longestFirst terms).map (scope · isRegex) ≠ [] :=
    List.ne_nil_of_mem (List.mem_map_of_mem hmem)
  obtain ⟨r, hparse, hrun⟩ := Regex.parse_alternation hne (fun s hs => by
    obtain ⟨t', ht', rfl⟩ := List.mem_map.mp hs
    exact isPlain_scope (hplain t' (mem_longestFirst_iff.mp ht').1)) caseInsensitive
  rw [hscopes]
  unfold alternation
  cases hordered : longestFirst terms with
  | nil => exact absurd hmem (by simp [hordered])
  | cons t' ts =>
    rw [hordered] at hparse hrun
    cases isRegex with
    | false =>
      exact ⟨_, _, rfl, hparse, ⟨rfl, fun t => (hrun t).symm⟩, rfl, fun t => rfl⟩
    | true =>
      dsimp only
      rw [if_pos rfl, Pattern.parse, hparse]
      exact ⟨_, _, rfl, hparse, ⟨rfl, fun t => rfl⟩, rfl, hrun⟩

/-- **What the joined pattern finds** is what the pattern of some term finds: those of the terms
before it in the order find nothing as far to the left, and those behind it nothing further to the
left. -/
theorem search?_alternation_iff {p : Pattern}
    (hplain : ∀ t ∈ terms, isRegex = true → hasMetachar t = false)
    (husable : ∃ t ∈ terms, isUsable t = true)
    (hp : alternation terms isRegex caseInsensitive = .ok (some p)) :
    p.search? text start = some m ↔ ∃ before t after, longestFirst terms = before ++ t :: after ∧
      Finds t isRegex caseInsensitive text start m ∧
      (∀ t' ∈ before, ∀ m', Finds t' isRegex caseInsensitive text start m' → m.start < m'.start) ∧
      ∀ t' ∈ after, ∀ m', Finds t' isRegex caseInsensitive text start m' → m.start ≤ m'.start := by
  obtain ⟨p', e, hp', -, -, hgroups, hrun⟩ := exists_alternation hplain husable caseInsensitive
  cases hp.symm.trans hp'
  have hne : (longestFirst terms).map (regexOf isRegex caseInsensitive) ≠ [] := by
    obtain ⟨t, ht, htusable⟩ := husable
    exact List.ne_nil_of_mem (List.mem_map_of_mem (mem_longestFirst_iff.mpr ⟨ht, htusable⟩))
  have hfinds : ∀ t ∈ longestFirst terms, ∀ m', Finds t isRegex caseInsensitive text start m' ↔
      (regexOf isRegex caseInsensitive t).search? text.toList.toArray 0 start = some m' :=
    fun t ht m' => finds_iff (hplain t (mem_longestFirst_iff.mp ht).1)
  rw [Pattern.search?, Regex.search?_congr (hrun _), hgroups, Regex.search?_ofAlt_eq_some_iff hne]
  constructor
  · rintro ⟨before, r, after, hsplit, hm, hbefore, hafter⟩
    obtain ⟨b, ta, hterms, rfl, hta⟩ := List.map_eq_append_iff.mp hsplit
    obtain ⟨t, a, rfl, rfl, rfl⟩ := List.map_eq_cons_iff.mp hta
    rw [hterms, List.forall_mem_append, List.forall_mem_cons] at hfinds
    obtain ⟨hb, ht, ha⟩ := hfinds
    refine ⟨b, t, a, hterms, (ht m).mpr hm, fun t' ht' m' hm' => ?_, fun t' ht' m' hm' => ?_⟩
    · exact hbefore _ (List.mem_map_of_mem ht') m' ((hb t' ht' m').mp hm')
    · exact hafter _ (List.mem_map_of_mem ht') m' ((ha t' ht' m').mp hm')
  · rintro ⟨b, t, a, hterms, hm, hbefore, hafter⟩
    rw [hterms, List.forall_mem_append, List.forall_mem_cons] at hfinds
    obtain ⟨hb, ht, ha⟩ := hfinds
    rw [hterms, List.map_append, List.map_cons]
    refine ⟨_, _, _, rfl, (ht m).mp hm, ?_, ?_⟩
    · rw [List.forall_mem_map]
      exact fun t' ht' m' hm' => hbefore t' ht' m' ((hb t' ht' m').mpr hm')
    · rw [List.forall_mem_map]
      exact fun t' ht' m' hm' => hafter t' ht' m' ((ha t' ht' m').mpr hm')

/-- Where a term finds something, so does the joined pattern. -/
theorem exists_search?_alternation {p : Pattern}
    (hplain : ∀ t ∈ terms, isRegex = true → hasMetachar t = false)
    (hp : alternation terms isRegex caseInsensitive = .ok (some p)) {t : String} (ht : t ∈ terms)
    (htusable : isUsable t = true) (hm : Finds t isRegex caseInsensitive text start m) :
    ∃ m', p.search? text start = some m' := by
  obtain ⟨p', e, hp', -, -, hgroups, hrun⟩ :=
    exists_alternation hplain ⟨t, ht, htusable⟩ caseInsensitive
  cases hp.symm.trans hp'
  have hmem := List.mem_map_of_mem (f := regexOf isRegex caseInsensitive)
    (mem_longestFirst_iff.mpr ⟨ht, htusable⟩)
  rw [finds_iff (hplain t ht)] at hm
  rw [← Option.isSome_iff_exists, Option.isSome_iff_ne_none, Pattern.search?,
    Regex.search?_congr (hrun _), hgroups]
  intro hnone
  rw [Regex.search?_ofAlt_eq_none_iff (List.ne_nil_of_mem hmem)] at hnone
  cases hm.symm.trans (hnone _ hmem)

/-! ## The first term of all -/

/-- Of all that the usable terms find from `start` on, `m` is the first, and `t`, which finds it,
comes before the other terms that find something there. -/
structure FindsFirst (terms : List String) (isRegex caseInsensitive : Bool) (text : String)
    (start : Nat) (t : String) (m : Regex.Match) : Prop where
  mem : t ∈ terms
  usable : isUsable t = true
  finds : Finds t isRegex caseInsensitive text start m
  least : ∀ t' ∈ terms, isUsable t' = true → ∀ m',
    Finds t' isRegex caseInsensitive text start m' → m.start ≤ m'.start
  first : ∀ t' ∈ terms, isUsable t' = true → ∀ m',
    Finds t' isRegex caseInsensitive text start m' → m'.start = m.start →
      t' = t ∨ ComesBefore t t'

theorem Finds.unique {t : String} {m' : Regex.Match}
    (h : Finds t isRegex caseInsensitive text start m)
    (h' : Finds t isRegex caseInsensitive text start m') : m = m' := by
  obtain ⟨p, hp, hm⟩ := h
  obtain ⟨p', hp', hm'⟩ := h'
  cases hp.symm.trans hp'
  exact Option.some_inj.mp (hm.symm.trans hm')

/-- At most one term is the first, with one match. -/
theorem FindsFirst.unique {t t' : String} {m' : Regex.Match}
    (h : FindsFirst terms isRegex caseInsensitive text start t m)
    (h' : FindsFirst terms isRegex caseInsensitive text start t' m') : m = m' := by
  have heq : m'.start = m.start :=
    Nat.le_antisymm (h'.least t h.mem h.usable m h.finds) (h.least t' h'.mem h'.usable m' h'.finds)
  rcases h.first t' h'.mem h'.usable m' h'.finds heq with rfl | hbefore
  · exact h.finds.unique h'.finds
  · rcases h'.first t h.mem h.usable m h.finds heq.symm with rfl | hbefore'
    · exact h.finds.unique h'.finds
    · exact absurd hbefore' hbefore.asymm

/-- What the joined pattern finds, the first term finds. -/
theorem exists_findsFirst {p : Pattern}
    (hplain : ∀ t ∈ terms, isRegex = true → hasMetachar t = false)
    (husable : ∃ t ∈ terms, isUsable t = true)
    (hp : alternation terms isRegex caseInsensitive = .ok (some p))
    (hm : p.search? text start = some m) :
    ∃ t, FindsFirst terms isRegex caseInsensitive text start t m := by
  obtain ⟨b, t, a, hsplit, hfinds, hbefore, hafter⟩ :=
    (search?_alternation_iff hplain husable hp).mp hm
  have hsorted : (b ++ t :: a).Pairwise ComesBefore := hsplit ▸ longestFirst_pairwise
  have hmem : ∀ t', t' ∈ terms ∧ isUsable t' = true ↔ t' ∈ b ∨ t' = t ∨ t' ∈ a := by
    intro t'
    rw [← mem_longestFirst_iff, hsplit, List.mem_append, List.mem_cons]
  obtain ⟨ht, htusable⟩ := (hmem t).mpr (.inr (.inl rfl))
  refine ⟨t, ht, htusable, hfinds, fun t' ht' htusable' m' hm' => ?_,
    fun t' ht' htusable' m' hm' heq => ?_⟩
  · rcases (hmem t').mp ⟨ht', htusable'⟩ with hb | rfl | ha
    · exact Nat.le_of_lt (hbefore t' hb m' hm')
    · exact Nat.le_of_eq (congrArg Regex.Match.start (hfinds.unique hm'))
    · exact hafter t' ha m' hm'
  · rcases (hmem t').mp ⟨ht', htusable'⟩ with hb | rfl | ha
    · exact absurd heq (Nat.ne_of_gt (hbefore t' hb m' hm'))
    · exact .inl rfl
    · exact .inr (List.rel_of_pairwise_cons (List.pairwise_append.mp hsorted).2.1 ha)

/-- Among words, the first term has the longest of the matches that begin where its own does. -/
theorem FindsFirst.stop_le {t t' : String} {m' : Regex.Match}
    (hplain : ∀ t ∈ terms, isRegex = true → hasMetachar t = false)
    (hwords : ∀ t ∈ terms, isUsable t = true → t.toList.getLast? ≠ some '*')
    (h : FindsFirst terms isRegex caseInsensitive text start t m) (ht' : t' ∈ terms)
    (htusable' : isUsable t' = true) (hm' : Finds t' isRegex caseInsensitive text start m')
    (heq : m'.start = m.start) : m'.stop ≤ m.stop := by
  have hlength : t'.length ≤ t.length := by
    rcases h.first t' ht' htusable' m' hm' heq with rfl | hlt | ⟨hlen, -⟩
    · exact Nat.le_refl _
    · exact Nat.le_of_lt hlt
    · exact Nat.le_of_eq hlen.symm
  rw [stop_of_finds_word (hplain t h.mem) (hwords t h.mem h.usable) h.finds,
    stop_of_finds_word (hplain t' ht') (hwords t' ht' htusable') hm', heq]
  exact Nat.add_le_add_left hlength _

/-- **The joined pattern agrees with those of the terms.** Plain terms of which one is usable have a
joined pattern, that of an expression; neither the order nor the repetitions of the terms change it.
From any position on it finds something exactly if the pattern of some usable term does. It finds
the first of all that they find, and of the terms that find something there it follows the longest
one, the first of these by code point. Among words this is the longest match. -/
theorem alternation_finds_first (terms : List String) (isRegex caseInsensitive : Bool)
    (hplain : ∀ t ∈ terms, isRegex = true → hasMetachar t = false)
    (husable : ∃ t ∈ terms, isUsable t = true) :
    ∃ p, alternation terms isRegex caseInsensitive = .ok (some p) ∧
      (∃ e, Regex.parse (Pattern.flags caseInsensitive) p.source = .ok e ∧ p.RunsAs e) ∧
      (∀ terms', (∀ t, t ∈ terms' ↔ t ∈ terms) →
        alternation terms' isRegex caseInsensitive = .ok (some p)) ∧
      ∀ (text : String) (start : Nat),
        ((∃ m, p.search? text start = some m) ↔
          ∃ t ∈ terms, isUsable t = true ∧ ∃ m, Finds t isRegex caseInsensitive text start m) ∧
        ∀ m, (p.search? text start = some m ↔
            ∃ t, FindsFirst terms isRegex caseInsensitive text start t m) ∧
          (p.search? text start = some m →
            (∀ t ∈ terms, isUsable t = true → t.toList.getLast? ≠ some '*') →
            ∀ t' ∈ terms, isUsable t' = true →
              ∀ m', Finds t' isRegex caseInsensitive text start m' → m'.start = m.start →
                m'.stop ≤ m.stop) := by
  obtain ⟨p, e, hp, hparse, hruns, -⟩ := exists_alternation hplain husable caseInsensitive
  refine ⟨p, hp, ⟨e, hparse, hruns⟩, fun terms' hterms' => ?_, fun text start => ⟨⟨?_, ?_⟩,
    fun m => ⟨⟨exists_findsFirst hplain husable hp, ?_⟩, ?_⟩⟩⟩
  · rw [← hp]
    unfold alternation
    rw [longestFirst_congr fun t _ => hterms' t]
  · rintro ⟨m, hm⟩
    obtain ⟨t, h⟩ := exists_findsFirst hplain husable hp hm
    exact ⟨t, h.mem, h.usable, m, h.finds⟩
  · rintro ⟨t, ht, htusable, m, hm⟩
    exact exists_search?_alternation hplain hp ht htusable hm
  · rintro ⟨t, h⟩
    obtain ⟨m', hm'⟩ := exists_search?_alternation hplain hp h.mem h.usable h.finds
    obtain ⟨t', h'⟩ := exists_findsFirst hplain husable hp hm'
    rw [hm', h.unique h']
  · intro hm hwords t' ht' htusable' m' hm' heq
    obtain ⟨t, h⟩ := exists_findsFirst hplain husable hp hm
    exact h.stop_le hplain hwords ht' htusable' hm' heq

/-- Two words, one of them twice, a stem and a blank. -/
def shelfTerms : List String := ["fi", " ", "sci fi", "fi", "sci*"]

theorem longestFirst_shelfTerms : longestFirst shelfTerms = ["sci fi", "sci*", "fi"] := by
  refine (longestFirst_unique (by decide) fun t => ⟨?_, ?_⟩).symm
  · have hgiven : ∀ t ∈ ["sci fi", "sci*", "fi"], t ∈ shelfTerms ∧ isUsable t = true := by decide
    exact hgiven t
  · have hordered : ∀ t ∈ shelfTerms, isUsable t = true → t ∈ ["sci fi", "sci*", "fi"] := by decide
    exact fun h => hordered t h.1 h.2

theorem alternation_finds_first_shelf :
    (∀ t ∈ shelfTerms, false = true → hasMetachar t = false) ∧
      (∃ t ∈ shelfTerms, isUsable t = true) ∧
      ∃ p, alternation shelfTerms false true = .ok (some p) ∧
        alternation shelfTerms.reverse false true = .ok (some p) ∧
        (∃ t, FindsFirst shelfTerms false true "hi-fi, Sci Fi" 6 t ⟨7, 13, []⟩) ∧
        p.search? "hi-fi, Sci Fi" 0 = some ⟨3, 5, []⟩ ∧
        p.search? "hi-fi, Sci Fi" 6 = some ⟨7, 13, []⟩ := by
  have hplain : ∀ t ∈ shelfTerms, false = true → hasMetachar t = false := nofun
  have husable : ∃ t ∈ shelfTerms, isUsable t = true := ⟨"fi", by decide, by decide⟩
  obtain ⟨p, hp, -, horder, hfinds⟩ := alternation_finds_first shelfTerms false true hplain husable
  have hsearch : p.search? "hi-fi, Sci Fi" 0 = some ⟨3, 5, []⟩ ∧
      p.search? "hi-fi, Sci Fi" 6 = some ⟨7, 13, []⟩ := by
    unfold alternation at hp
    rw [longestFirst_shelfTerms] at hp
    cases hp
    decide +kernel
  exact ⟨hplain, husable, p, hp, horder _ fun t => List.mem_reverse,
    ((hfinds _ 6).2 _).1.mp hsearch.2, hsearch⟩

end CiteSieve.Term
