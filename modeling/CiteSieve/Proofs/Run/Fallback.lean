import CiteSieve.Proofs.Evaluation.Hits
import CiteSieve.Proofs.Regex.Escaped
import CiteSieve.Proofs.Regex.Literal
import CiteSieve.Proofs.Regex.Refused
import CiteSieve.Proofs.Run.Classified

/-!
# Broken terms do not stop a run

A term that is no regular expression is looked for literally. Only an expression that asks for what
cannot be built has no pattern; a plain term always has one, since its expression can be read.

* `Term.compile_of_parse`, `Term.compile_of_flaw`, `Term.compile_eq_error_iff`: the pattern of a
  term by what its expression is read as.
* `Term.exists_compile`: a term that is plain or modest has a pattern.
* `Run.term_falls_back`: patterns of modest terms, and runs of queries with such terms.
-/

namespace CiteSieve

/-! ## What a pattern does -/

/-- The pattern finds what the expression `e` finds. -/
structure Pattern.RunsAs (p : Pattern) (e : Regex.Parsed) : Prop where
  groupCount : p.groupCount = e.groupCount
  run : ∀ t, p.regex.run t = e.regex.run t

/-- The pattern finds the first place from a position on where `cs` stands, up to `fold`, and
nothing if there is none. A position behind the text counts as its end. -/
structure Pattern.FindsText (p : Pattern) (fold : Fold) (cs : List Char) : Prop where
  finds : ∀ (text : String) (start : Nat) (m : Regex.Match), p.search? text start = some m ↔
    ∃ i, m = ⟨i, i + cs.length, []⟩ ∧ min start text.toList.length ≤ i ∧
      OccursAt fold cs text.toList i ∧
      ∀ j, min start text.toList.length ≤ j → j < i → ¬ OccursAt fold cs text.toList j
  misses : ∀ (text : String) (start : Nat), p.search? text start = none ↔
    ∀ i, min start text.toList.length ≤ i → ¬ OccursAt fold cs text.toList i

/-- A pattern that runs as an expression finds the same in every text. -/
theorem Pattern.RunsAs.search?_eq {p : Pattern} {e : Regex.Parsed} (h : p.RunsAs e)
    (text : String) (start : Nat) :
    p.search? text start = e.regex.search? text.toList.toArray e.groupCount start := by
  unfold Pattern.search?
  rw [Regex.search?_congr (h.run _), h.groupCount]

namespace Term

theorem findsText_literalPattern (term : String) (caseInsensitive : Bool) :
    (literalPattern term caseInsensitive).FindsText (foldOf caseInsensitive) term.toList where
  finds _ _ _ := (Regex.matchesAt_literal _ _ _).search?_iff
  misses _ _ := (Regex.matchesAt_literal _ _ _).search?_eq_none_iff

/-- **The fallback is an expression**: that of the escaped term. -/
theorem parse_escape_runsAs (term : String) (caseInsensitive : Bool) :
    ∃ e, Regex.parse (Pattern.flags caseInsensitive) (Regex.escape term) = .ok e ∧
      (literalPattern term caseInsensitive).RunsAs e :=
  ⟨_, Regex.parse_escape term caseInsensitive, rfl, fun _ => (Regex.run_escaped _ _).symm⟩

/-! ## Scopes -/

/-- **The pattern of a scope** is that of its expression. -/
theorem Scope.pattern_of_parse {s : Scope} {caseInsensitive : Bool} {e : Regex.Parsed}
    (h : Regex.parse (Pattern.flags caseInsensitive) s.source = .ok e) :
    ∃ p, s.pattern caseInsensitive = .ok p ∧ p.source = s.source ∧ p.RunsAs e := by
  cases s with
  | verbatim source =>
    refine ⟨⟨source, e.regex, e.groupCount⟩, ?_, rfl, rfl, fun _ => rfl⟩
    have hparse : Regex.parse (Pattern.flags caseInsensitive) source = .ok e := h
    rw [Scope.pattern, Pattern.parse, hparse]
    rfl
  | word cs =>
    cases (Regex.parse_word cs caseInsensitive).symm.trans h
    exact ⟨_, rfl, rfl, rfl, fun _ => (Regex.run_behind_edge _ cs Regex.edgeItem).symm⟩
  | stem cs =>
    cases (Regex.parse_stem cs caseInsensitive).symm.trans h
    exact ⟨_, rfl, rfl, rfl, fun _ => (Regex.run_behind_edge _ cs (Regex.tailItem _)).symm⟩

theorem Scope.pattern_of_error {s : Scope} {caseInsensitive : Bool} {e : Regex.Error}
    (h : Regex.parse (Pattern.flags caseInsensitive) s.source = .error e) :
    s.pattern caseInsensitive = .error e := by
  cases s with
  | verbatim source =>
    have hparse : Regex.parse (Pattern.flags caseInsensitive) source = .error e := h
    rw [Scope.pattern, Pattern.parse, hparse]
    rfl
  | word cs => cases (Regex.parse_word cs caseInsensitive).symm.trans h
  | stem cs => cases (Regex.parse_stem cs caseInsensitive).symm.trans h

/-! ## Terms -/

section Compile

variable {term : String} {isRegex caseInsensitive : Bool}

/-- A term whose expression can be read. -/
theorem compile_of_parse {e : Regex.Parsed}
    (h : Regex.parse (Pattern.flags caseInsensitive) (scope term isRegex).source = .ok e) :
    ∃ p, compile term isRegex caseInsensitive = .ok p ∧ p.source = (scope term isRegex).source ∧
      p.RunsAs e := by
  obtain ⟨p, hp, hspec⟩ := Scope.pattern_of_parse h
  refine ⟨p, ?_, hspec⟩
  rw [compile, hp]

/-- A term whose expression has a flaw. -/
theorem compile_of_flaw {f : Regex.Flaw} (h : Regex.parse (Pattern.flags caseInsensitive)
      (scope term isRegex).source = .error (.flaw f)) :
    compile term isRegex caseInsensitive = .ok (literalPattern term caseInsensitive) := by
  rw [compile, Scope.pattern_of_error h]

/-- A term whose expression cannot be built for something else than a flaw. -/
theorem compile_of_error {e : Regex.Error} (h : Regex.parse (Pattern.flags caseInsensitive)
      (scope term isRegex).source = .error e) (hne : ∀ f, e ≠ .flaw f) :
    compile term isRegex caseInsensitive = .error e := by
  rw [compile, Scope.pattern_of_error h]
  split
  · rename_i f he
    cases he
    exact absurd rfl (hne f)
  · rfl

/-- **A term has no pattern** only if its expression cannot be built for something else than a
flaw. -/
theorem compile_eq_error_iff {e : Regex.Error} :
    compile term isRegex caseInsensitive = .error e ↔
      Regex.parse (Pattern.flags caseInsensitive) (scope term isRegex).source = .error e ∧
        ∀ f, e ≠ .flaw f := by
  refine ⟨fun h => ?_, fun h => compile_of_error h.1 h.2⟩
  cases hparse : Regex.parse (Pattern.flags caseInsensitive) (scope term isRegex).source with
  | ok parsed =>
    obtain ⟨p, hp, -⟩ := compile_of_parse hparse
    cases hp.symm.trans h
  | error e' =>
    by_cases hflaw : ∃ f, e' = .flaw f
    · obtain ⟨f, rfl⟩ := hflaw
      cases (compile_of_flaw hparse).symm.trans h
    · have hne : ∀ f, e' ≠ .flaw f := fun f he => hflaw ⟨f, he⟩
      cases (compile_of_error hparse hne).symm.trans h
      exact ⟨rfl, hne⟩

/-- Only a block of regular expressions takes a term as it stands. -/
theorem scope_eq_verbatim {source : String} (h : scope term isRegex = .verbatim source) :
    isRegex = true ∧ source = term := by
  unfold scope at h
  split at h
  · rename_i hregex
    cases h
    exact ⟨(Bool.and_eq_true_iff.mp hregex).1, rfl⟩
  · split at h
    · cases h
    · cases h

/-- **A term that is plain or modest has a pattern.** -/
theorem exists_compile (h : isRegex = true → Regex.IsModest term.toList)
    (caseInsensitive : Bool) : ∃ p, compile term isRegex caseInsensitive = .ok p := by
  cases hcompile : compile term isRegex caseInsensitive with
  | ok p => exact ⟨p, rfl⟩
  | error e =>
    exfalso
    obtain ⟨hparse, hne⟩ := compile_eq_error_iff.mp hcompile
    cases hscope : scope term isRegex with
    | verbatim source =>
      obtain ⟨hregex, rfl⟩ := scope_eq_verbatim hscope
      obtain ⟨-, hascii, -⟩ := Regex.flags_spec caseInsensitive
      have hflaw := Regex.yields_parse (h hregex) hascii rfl
      rw [hscope] at hparse
      rw [show Regex.parse (Pattern.flags caseInsensitive) source = .error e from hparse] at hflaw
      obtain ⟨f, rfl⟩ := hflaw
      exact hne f rfl
    | word cs =>
      rw [hscope, Regex.parse_word] at hparse
      cases hparse
    | stem cs =>
      rw [hscope, Regex.parse_stem] at hparse
      cases hparse

end Compile

end Term

/-! ## Queries and runs -/

/-- The terms of the query that are taken as expressions are modest. -/
def Query.IsModest (q : Query) : Prop :=
  ∀ b ∈ q.usableBlocks, b.isRegex = true → ∀ t ∈ b.usableTerms, Regex.IsModest t.toList

theorem Query.exists_compile_of_isModest {q : Query} (h : q.IsModest) :
    ∃ c, q.compile = .ok c :=
  Query.exists_compile fun b hb t ht =>
    Term.exists_compile (fun hregex => h b hb hregex t ht) q.caseInsensitive

theorem Run.exists_ofRecords {q : Query} (h : q.IsModest) (rs : List Record) :
    ∃ r, Run.ofRecords q rs = .ok r := by
  obtain ⟨c, hc⟩ := Query.exists_compile_of_isModest h
  rw [Run.ofRecords_eq, hc]
  exact ⟨_, rfl⟩

/-- **Broken terms do not stop a run.** A term that is plain or modest has a pattern. If its
expression can be read, the pattern finds what the expression finds; if it has a flaw, the pattern
finds the term itself, and is that of an expression, the escaped term. A term has no pattern only if
its expression cannot be built for something else than a flaw. A query with modest terms can be
compiled and run. -/
theorem Run.term_falls_back (term : String) (isRegex caseInsensitive : Bool) :
    (∀ e, Regex.parse (Pattern.flags caseInsensitive) (Term.scope term isRegex).source = .ok e →
        ∃ p, Term.compile term isRegex caseInsensitive = .ok p ∧
          p.source = (Term.scope term isRegex).source ∧ p.RunsAs e) ∧
      (∀ f, Regex.parse (Pattern.flags caseInsensitive) (Term.scope term isRegex).source =
          .error (.flaw f) →
        ∃ p e, Term.compile term isRegex caseInsensitive = .ok p ∧
          p.FindsText (Term.foldOf caseInsensitive) term.toList ∧
          p.source = Regex.escape term ∧
          Regex.parse (Pattern.flags caseInsensitive) p.source = .ok e ∧ p.RunsAs e) ∧
      (∀ e, Term.compile term isRegex caseInsensitive = .error e ↔
        Regex.parse (Pattern.flags caseInsensitive) (Term.scope term isRegex).source = .error e ∧
          ∀ f, e ≠ .flaw f) ∧
      ((isRegex = true → Regex.IsModest term.toList) →
        ∃ p, Term.compile term isRegex caseInsensitive = .ok p) ∧
      ∀ q : Query, q.IsModest →
        (∃ c, q.compile = .ok c) ∧ ∀ rs, ∃ r, Run.ofRecords q rs = .ok r := by
  refine ⟨fun e h => Term.compile_of_parse h, fun f h => ?_, fun e => Term.compile_eq_error_iff,
    fun h => Term.exists_compile h caseInsensitive, fun q h => ?_⟩
  · obtain ⟨e, he, hruns⟩ := Term.parse_escape_runsAs term caseInsensitive
    exact ⟨_, e, Term.compile_of_flaw h, Term.findsText_literalPattern term caseInsensitive, rfl,
      he, hruns⟩
  · exact ⟨Query.exists_compile_of_isModest h, Run.exists_ofRecords h⟩

/-- An open group with a set that is not closed. -/
def brokenTerm : String := "(sci[fi"

theorem Run.term_falls_back_broken :
    Regex.IsModest brokenTerm.toList ∧
      Regex.parse (Pattern.flags true) (Term.scope brokenTerm true).source =
        .error (.flaw .unterminatedSet) ∧
      ∃ p, Term.compile brokenTerm true true = .ok p ∧
        p.FindsText .unicode brokenTerm.toList ∧
        p.search? "on (Sci[Fi)" 0 = some ⟨3, 10, []⟩ := by
  have hmodest : Regex.IsModest brokenTerm.toList :=
    Regex.isModest_of_not_mem (by decide) (by decide)
  have hflaw : Regex.parse (Pattern.flags true) (Term.scope brokenTerm true).source =
      .error (.flaw .unterminatedSet) := rfl
  obtain ⟨-, hfallback, -, htotal, -⟩ := Run.term_falls_back brokenTerm true true
  obtain ⟨p, -, hp, hfinds, -⟩ := hfallback _ hflaw
  obtain ⟨p', hp'⟩ := htotal fun _ => hmodest
  cases hp.symm.trans hp'
  refine ⟨hmodest, hflaw, p, hp, hfinds, ?_⟩
  cases hp
  rfl

/-- A repetition count beyond what can be counted. -/
def immodestTerm : String := "a\x7b4294967295\x7d"

/-- A query with one block of expressions, which holds the term. -/
def immodestQuery : Query :=
  { blocks := [{ name := "A", terms := [immodestTerm], isRegex := true, id := "a" }],
    operators := [] }

/-- The term has no pattern, and stops the run before the first record. -/
theorem Run.immodestTerm_refused :
    Term.compile immodestTerm true true = .error .repetitionTooLarge ∧
      Run.ofRecords immodestQuery [] = .error .repetitionTooLarge ∧
      Term.compile "(?a)(?u)" true true = .error .asciiAndUnicode :=
  ⟨rfl, rfl, rfl⟩

end CiteSieve
