import CiteSieve.Proofs.Regex.Runs
import CiteSieve.Proofs.Run.Fallback
import CiteSieve.Proofs.Text.LoweredWords

/-!
# Plain terms are words

A plain term is looked for as a word: its characters, up to the case that is not told apart,
between two edges of words. A final star drops the second edge, and takes all word characters and
hyphens that follow.

* `accepts_stemTail`: what may extend a stem does not depend on case.
* `matchesAt_wordRegex`, `matchesAt_stemRegex`: where the expressions of plain terms match.
* `compile_plain`: the pattern of a plain term.
* `compile_finds_words`: it finds the first place where the word, or the stem, stands.
-/

namespace CiteSieve

/-- From any position on the pattern finds the first offset where `P` holds, with the range up to
`stop`, and nothing if there is none. A position behind the text counts as its end. -/
structure Pattern.FindsFirst (p : Pattern) (P : List Char → Nat → Prop)
    (stop : List Char → Nat → Nat) : Prop where
  finds : ∀ (text : String) (start : Nat) (m : Regex.Match), p.search? text start = some m ↔
    ∃ i, m = ⟨i, stop text.toList i, []⟩ ∧ min start text.toList.length ≤ i ∧
      P text.toList i ∧ ∀ j, min start text.toList.length ≤ j → j < i → ¬ P text.toList j
  misses : ∀ (text : String) (start : Nat), p.search? text start = none ↔
    ∀ i, min start text.toList.length ≤ i → ¬ P text.toList i

theorem Pattern.FindsFirst.of_matchesAt {source : String} {r : Regex}
    {P : List Char → Nat → Prop} {stop : List Char → Nat → Nat}
    (h : ∀ text, r.MatchesAt text (P text) (stop text)) :
    (Pattern.mk source r 0).FindsFirst P stop where
  finds _ _ _ := (h _).search?_iff
  misses _ _ := (h _).search?_eq_none_iff

namespace Term

variable {fold : Fold} {cs text : List Char} {i : Nat}

/-! ## Where words and stems stand -/

/-- The word `cs` stands at the offset `i`, between two edges. -/
structure WordStands (fold : Fold) (cs text : List Char) (i : Nat) : Prop where
  occurs : OccursAt fold cs text i
  start_edge : IsWordEdge text i
  stop_edge : IsWordEdge text (i + cs.length)

/-- The stem `cs` stands at the offset `i`, behind an edge. -/
structure StemStands (fold : Fold) (cs text : List Char) (i : Nat) : Prop where
  occurs : OccursAt fold cs text i
  start_edge : IsWordEdge text i

/-- What may extend a stem. -/
def isTail (c : Char) : Bool :=
  Text.isWord c || c == '-'

/-- Where the longest run of word characters and hyphens behind a stem at `i` ends. -/
def stemStop (cs text : List Char) (i : Nat) : Nat :=
  i + cs.length + ((text.drop (i + cs.length)).takeWhile isTail).length

theorem le_stemStop : i + cs.length ≤ stemStop cs text i :=
  Nat.le_add_right _ _

/-- A stem of nothing is extended by a word that begins there. -/
theorem lt_stemStop_nil (h : IsWordAt text i) : i < stemStop [] text i := by
  obtain ⟨c, hc, hword⟩ := h
  obtain ⟨hlt, hc⟩ := List.getElem?_eq_some_iff.mp hc
  have htail : isTail text[i] = true := by
    rw [hc, isTail, hword, Bool.true_or]
  rw [stemStop, List.length_nil, Nat.add_zero, List.drop_eq_getElem_cons hlt,
    List.takeWhile_cons_of_pos htail, List.length_cons]
  omega

/-! ## What extends a stem -/

theorem caseVariants_hyphen : Text.caseVariants 0x2d = [0x2d] := by
  decide +kernel

theorem holds_word_key (caseInsensitive : Bool) (c : Char) :
    CharKind.holds .word false ((foldOf caseInsensitive).key c.toNat) = Text.isWord c := by
  cases caseInsensitive with
  | false => exact congrArg Text.isWord (Char.ofNat_toNat c)
  | true => exact Text.isWord_lowerCode c

theorem accepts_hyphen_key (caseInsensitive : Bool) (c : Char) :
    SetItem.accepts (foldOf caseInsensitive) ((foldOf caseInsensitive).key c.toNat)
      (.code '-'.toNat) = (c == '-') := by
  have hhyphen : (c == '-') = true ↔ c.toNat = 0x2d := by
    rw [beq_iff_eq, ← Char.toNat_inj]
    rfl
  rw [Bool.eq_iff_iff, hhyphen]
  cases caseInsensitive with
  | false => simp [foldOf, SetItem.accepts, Fold.key, Fold.variants, basicPlaneEnd]
  | true =>
    have hkey : Text.lowerCode 0x2d = 0x2d := rfl
    simp [foldOf, SetItem.accepts, Fold.key, Fold.variants, basicPlaneEnd, hkey,
      caseVariants_hyphen, Text.lowerCode_eq_iff]

/-- **What may extend a stem** are word characters and hyphens, with and without regard to
case. -/
theorem accepts_stemTail (caseInsensitive : Bool) (c : Char) :
    (stemTail (foldOf caseInsensitive)).accepts c = isTail c := by
  rw [stemTail, CharTest.accepts, Bool.bne_false, List.any_cons, List.any_cons, List.any_nil,
    Bool.or_false, accepts_hyphen_key, SetItem.accepts, holds_word_key, Bool.bne_false, isTail]

theorem runLength_stemTail (caseInsensitive : Bool) (text : List Char) (i : Nat) :
    Regex.runLength (stemTail (foldOf caseInsensitive)).accepts text i =
      ((text.drop i).takeWhile isTail).length := by
  rw [Regex.runLength, funext (accepts_stemTail caseInsensitive)]

/-! ## What the expressions of plain terms match -/

/-- **The expression of a word** matches the word between edges. -/
theorem matchesAt_wordRegex (fold : Fold) (cs text : List Char) :
    (wordRegex fold cs).MatchesAt text (WordStands fold cs text) (· + cs.length) :=
  .of_run (fun h => h.occurs.le_length) fun {i s} hi => by
    rw [wordRegex, Regex.run, Regex.run_edge_iff, Regex.run, Regex.run_literal_iff hi,
      Regex.run_edge_iff, Option.some_inj]
    constructor
    · rintro ⟨hstart, hoccurs, hstop, rfl⟩
      exact ⟨⟨hoccurs, hstart, hstop⟩, rfl⟩
    · rintro ⟨⟨hoccurs, hstart, hstop⟩, rfl⟩
      exact ⟨hstart, hoccurs, hstop, rfl⟩

/-- **The expression of a stem** matches the stem behind an edge, and what extends it. -/
theorem matchesAt_stemRegex (caseInsensitive : Bool) (cs text : List Char) :
    (stemRegex (foldOf caseInsensitive) cs).MatchesAt text
      (StemStands (foldOf caseInsensitive) cs text) (stemStop cs text) :=
  .of_run (fun h => h.occurs.le_length) fun {i s} hi => by
    rw [stemRegex, Regex.run, Regex.run_edge_iff, Regex.run, Regex.run_literal_iff hi,
      Regex.run_star, runLength_stemTail, Option.some_inj]
    constructor
    · rintro ⟨hstart, hoccurs, rfl⟩
      exact ⟨⟨hoccurs, hstart⟩, rfl⟩
    · rintro ⟨⟨hoccurs, hstart⟩, rfl⟩
      exact ⟨hstart, hoccurs, rfl⟩

/-! ## Patterns of plain terms -/

section Compile

variable {term : String} {isRegex caseInsensitive : Bool}

theorem scope_of_plain (h : isRegex = true → hasMetachar term = false) :
    scope term isRegex = scope term false := by
  have hplain : (isRegex && hasMetachar term) = false := by
    cases isRegex with
    | false => rfl
    | true => exact h rfl
  rw [scope, hplain]
  rfl

theorem scope_of_stem {stem : List Char} (h : term.toList = stem ++ ['*']) :
    scope term false = .stem stem := by
  rw [scope, Bool.false_and, if_neg Bool.false_ne_true, h, List.getLast?_concat,
    if_pos rfl, List.dropLast_concat]

theorem scope_of_word (h : term.toList.getLast? ≠ some '*') :
    scope term false = .word term.toList := by
  rw [scope, Bool.false_and, if_neg Bool.false_ne_true, if_neg h]

theorem scope_cases (term : String) :
    (∃ stem, term.toList = stem ++ ['*'] ∧ scope term false = .stem stem) ∨
      (term.toList.getLast? ≠ some '*' ∧ scope term false = .word term.toList) := by
  by_cases hstar : term.toList.getLast? = some '*'
  · obtain ⟨stem, hstem⟩ := List.getLast?_eq_some_iff.mp hstar
    exact .inl ⟨stem, hstem, scope_of_stem hstem⟩
  · exact .inr ⟨hstar, scope_of_word hstar⟩

/-- **The pattern of a plain term** is that of its scope. -/
theorem compile_plain (h : isRegex = true → hasMetachar term = false) (caseInsensitive : Bool) :
    compile term isRegex caseInsensitive = .ok ⟨(scope term isRegex).source,
      (scope term isRegex).plainRegex (foldOf caseInsensitive), 0⟩ := by
  rw [compile, scope_of_plain h]
  obtain ⟨stem, -, hscope⟩ | ⟨-, hscope⟩ := scope_cases term
  · rw [hscope]
    rfl
  · rw [hscope]
    rfl

/-- The expression of a plain term can be read, and its pattern runs as it. -/
theorem parse_plain (h : isRegex = true → hasMetachar term = false) (caseInsensitive : Bool) :
    ∃ e, Regex.parse (Pattern.flags caseInsensitive) (scope term isRegex).source = .ok e ∧
      (Pattern.mk (scope term isRegex).source
        ((scope term isRegex).plainRegex (foldOf caseInsensitive)) 0).RunsAs e := by
  have hparse : ∃ e, Regex.parse (Pattern.flags caseInsensitive) (scope term isRegex).source =
      .ok e := by
    rw [scope_of_plain h]
    obtain ⟨stem, -, hscope⟩ | ⟨-, hscope⟩ := scope_cases term
    · rw [hscope]
      exact ⟨_, Regex.parse_stem stem caseInsensitive⟩
    · rw [hscope]
      exact ⟨_, Regex.parse_word term.toList caseInsensitive⟩
  obtain ⟨e, he⟩ := hparse
  obtain ⟨p, hp, -, hruns⟩ := compile_of_parse he
  cases (compile_plain h caseInsensitive).symm.trans hp
  exact ⟨e, he, hruns⟩

end Compile

/-- **Plain terms are words.** A term that is not taken as an expression has a pattern, which is
that of an expression, and finds the first place where the characters of the term stand between two
edges of words, up to the case that is not told apart; or, if the term is a stem with a star, the
first place where the stem stands behind an edge, with all word characters and hyphens that
follow. -/
theorem compile_finds_words (term : String) (isRegex caseInsensitive : Bool)
    (h : isRegex = true → hasMetachar term = false) :
    ∃ p, compile term isRegex caseInsensitive = .ok p ∧
      p.source = (scope term isRegex).source ∧
      (∃ e, Regex.parse (Pattern.flags caseInsensitive) p.source = .ok e ∧ p.RunsAs e) ∧
      (term.toList.getLast? ≠ some '*' →
        p.FindsFirst (WordStands (foldOf caseInsensitive) term.toList)
          fun _ i => i + term.toList.length) ∧
      ∀ stem, term.toList = stem ++ ['*'] →
        p.FindsFirst (StemStands (foldOf caseInsensitive) stem) (stemStop stem) := by
  refine ⟨_, compile_plain h caseInsensitive, rfl, parse_plain h caseInsensitive, fun hword => ?_,
    fun stem hstem => ?_⟩
  · rw [scope_of_plain h, scope_of_word hword]
    exact .of_matchesAt fun text => matchesAt_wordRegex _ _ text
  · rw [scope_of_plain h, scope_of_stem hstem]
    exact .of_matchesAt fun text => matchesAt_stemRegex _ _ text

/-- Metacharacters and a line feed between two letters. -/
def brokenCall : String := "f(.\\\n) x"

theorem compile_finds_words_brokenCall :
    hasMetachar brokenCall = true ∧ hasMetachar "sci fi" = false ∧
      (∃ p, compile brokenCall false true = .ok p ∧
        p.FindsFirst (WordStands .unicode brokenCall.toList)
          (fun _ i => i + brokenCall.toList.length) ∧
        p.search? "xf(.\\\n) x, F(.\\\n) X" 0 = some ⟨11, 19, []⟩) ∧
      (∃ p, compile "sci fi" true false = .ok p ∧
        p.FindsFirst (WordStands .exact "sci fi".toList) (fun _ i => i + "sci fi".toList.length) ∧
        p.search? "Sci Fi, sci fis, sci fi" 0 = some ⟨17, 23, []⟩) ∧
      ∃ p, compile "co-*" false true = .ok p ∧
        p.FindsFirst (StemStands .unicode "co-".toList) (stemStop "co-".toList) ∧
        p.search? "taco-s Co-op-s" 0 = some ⟨7, 14, []⟩ := by
  have hplain : false = true → hasMetachar brokenCall = false := nofun
  have hnone : hasMetachar "sci fi" = false := by decide
  obtain ⟨p, hp, -, -, hcall, -⟩ := compile_finds_words brokenCall false true hplain
  obtain ⟨p', hp', -, -, hwords, -⟩ := compile_finds_words "sci fi" true false fun _ => hnone
  obtain ⟨p'', hp'', -, -, -, hstem⟩ := compile_finds_words "co-*" false true nofun
  refine ⟨by decide, hnone, ⟨p, hp, hcall (by decide), ?_⟩, ⟨p', hp', hwords (by decide), ?_⟩,
    p'', hp'', hstem _ rfl, ?_⟩
  · cases hp
    decide +kernel
  · cases hp'
    decide +kernel
  · cases hp''
    decide +kernel

end Term

end CiteSieve
