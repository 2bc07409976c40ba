import CiteSieve.Proofs.Regex.Escaped
import CiteSieve.Proofs.Regex.Literal

/-!
# Several expressions joined

Plain terms are joined to one expression, each in brackets and a bar between two. The expression is
read back as the alternative of theirs, and a search with it is as good as one search for each: it
finds the first place where one of them matches, and what the first of them that does matches there.

* `goesOn_bracket`: the reader gets over a plain term in brackets, which becomes one item.
* `exists_parse_alternation`: the joined expression.
* `matchAt?_ofAlt`, `search?_ofAlt_eq_some_iff`: what an alternative matches and finds.
-/

namespace CiteSieve

/-- The scope is that of a plain term. -/
def Term.Scope.IsPlain (s : Scope) : Prop :=
  ∀ source, s ≠ .verbatim source

namespace Regex

open Term (Scope foldOf)

/-! ## Reading plain terms in brackets -/

/-- An item that two items at least make up is no test on one character. -/
theorem Frame.toItem_of_items {f : Frame} (hbranches : f.branches = [])
    (hitems : 1 < f.items.length) : f.toItem = ⟨.other, branchRegex f.items.reverse⟩ := by
  have hall : f.allBranches = [f.items.reverse] := by
    rw [Frame.allBranches, hbranches]
    rfl
  rw [← List.length_reverse] at hitems
  unfold Frame.toItem
  rw [hall]
  cases h : f.items.reverse with
  | nil => simp [h] at hitems
  | cons i is =>
    cases is with
    | nil => simp [h] at hitems
    | cons j js => rfl

theorem goesOn_open {d : Draft} (hd : d.frame.flags.verbose = false) {rest : List Token}
    (hrest : rest ≠ [.danglingBackslash]) :
    d.GoesOn (.char '(' :: .char '?' :: .char ':' :: rest)
      (d.enter (.bracket true) d.frame.flags) rest := by
  refine .of_step nofun ?_ (Nat.le_add_right rest.length 2)
  show d.readChar '(' (.char '?' :: .char ':' :: rest) = _
  unfold Draft.readChar
  dsimp only
  rw [hd]
  show d.readExtension (.char ':' :: rest) = _
  unfold Draft.readExtension
  dsimp only
  rw [afterFirst_of_ne hrest]
  rfl

/-- The end of a bracket that holds two items at least. -/
theorem goesOn_close {d : Draft} {is : List Item} (his : 1 < is.length)
    (hd : d.frame.flags.verbose = false) {rest : List Token}
    (hrest : rest ≠ [.danglingBackslash]) :
    ((d.enter (.bracket true) d.frame.flags).pushAll is).GoesOn (.char ')' :: rest)
      (d.pushAll [⟨.other, branchRegex is⟩]) rest := by
  refine .of_step (fun _ => List.cons_ne_nil _ _) ?_ (Nat.le_refl _)
  have hitem : ((d.enter (.bracket true) d.frame.flags).pushAll is).frame.toItem =
      ⟨.other, branchRegex is⟩ := by
    have hitems : (is.reverse ++ []).reverse = is := by
      rw [List.append_nil, List.reverse_reverse]
    refine (Frame.toItem_of_items rfl ?_).trans ?_
    · show 1 < (is.reverse ++ []).length
      rwa [List.append_nil, List.length_reverse]
    · exact congrArg (fun js => Item.mk .other (branchRegex js)) hitems
  have hclose : ((d.enter (.bracket true) d.frame.flags).pushAll is).close =
      .ok (d.pushAll [⟨.other, branchRegex is⟩]) := by
    show Except.ok _ = _
    rw [hitem]
    rfl
  unfold Draft.step
  rw [afterFirst_of_ne hrest]
  show Draft.readChar _ ')' rest = _
  unfold Draft.readChar
  have hverbose :
      ((d.enter (.bracket true) d.frame.flags).pushAll is).frame.flags.verbose = false := hd
  dsimp only
  rw [hverbose, hclose]
  rfl

/-- What is read as two items at least is read as one in brackets. -/
theorem goesOn_bracket {flags : Flags} (hflags : flags.verbose = false) {ts rest : List Token}
    {is : List Item} (his : 1 < is.length) (hts : ts ++ .char ')' :: rest ≠ [.danglingBackslash])
    (hrest : rest ≠ [.danglingBackslash])
    (hread : ∀ d : Draft, d.frame.flags = flags →
      d.GoesOn (ts ++ .char ')' :: rest) (d.pushAll is) (.char ')' :: rest))
    {d : Draft} (hd : d.frame.flags = flags) :
    d.GoesOn (.char '(' :: .char '?' :: .char ':' :: (ts ++ .char ')' :: rest))
      (d.pushAll [⟨.other, branchRegex is⟩]) rest := by
  have hverbose : d.frame.flags.verbose = false := by rw [hd, hflags]
  have hinside := hread (d.enter (.bracket true) d.frame.flags) hd
  exact ((goesOn_open hverbose hts).trans hinside).trans (goesOn_close his hverbose hrest)

/-- The source of a plain term comes out as the tokens `ts`, which are read as the items `is`; they
run as the expression of the term. -/
structure Scope.IsReadAs (s : Scope) (caseInsensitive : Bool) (ts : List Token) (is : List Item) :
    Prop where
  tokens : ∀ cs, tokenize (s.source.toList ++ cs) = ts ++ tokenize cs
  goesOn : ∀ (d : Draft) (rest : List Token), d.frame.flags = Pattern.flags caseInsensitive →
    EndsRepetition rest → d.GoesOn (ts ++ rest) (d.pushAll is) rest
  run : ∀ t, (branchRegex is).run t = (s.plainRegex (foldOf caseInsensitive)).run t
  tokens_ne : ∀ rest : List Token, ts ++ rest ≠ [.danglingBackslash]
  two_items : 1 < is.length

theorem exists_isReadAs {s : Scope} (hs : s.IsPlain) (caseInsensitive : Bool) :
    ∃ ts is, Scope.IsReadAs s caseInsensitive ts is := by
  cases s with
  | verbatim source => exact absurd rfl (hs source)
  | word cs =>
    refine ⟨.escape 'b' :: (cs.map escapedToken ++ [.escape 'b']), _, fun rest => ?_,
      fun d rest hd hrest => ?_, fun t => run_behind_edge _ cs edgeItem, fun rest => nofun, ?_⟩
    · rw [tokenize_word, List.cons_append, List.append_assoc]
      rfl
    · rw [List.cons_append, List.append_assoc]
      exact goesOn_word hd hrest.ne cs
    · simp
  | stem cs =>
    refine ⟨.escape 'b' :: (cs.map escapedToken ++ tailTokens), _, fun rest => ?_,
      fun d rest hd hrest => ?_, fun t => run_behind_edge _ cs (tailItem _), fun rest => nofun, ?_⟩
    · rw [tokenize_stem, List.cons_append, List.append_assoc]
    · rw [List.cons_append, List.append_assoc]
      exact goesOn_stem hd hrest cs
    · simp

/-- **A plain term in brackets** is read as one item. -/
theorem Scope.IsReadAs.goesOn_bracket {s : Scope} {caseInsensitive : Bool} {ts : List Token}
    {is : List Item} (h : Scope.IsReadAs s caseInsensitive ts is) {cs : List Char}
    (hcs : tokenize cs ≠ [.danglingBackslash]) {d : Draft}
    (hd : d.frame.flags = Pattern.flags caseInsensitive) :
    d.GoesOn (tokenize (("(?:" ++ s.source ++ ")").toList ++ cs))
      (d.pushAll [⟨.other, branchRegex is⟩]) (tokenize cs) := by
  have htokens : tokenize (("(?:" ++ s.source ++ ")").toList ++ cs) =
      .char '(' :: .char '?' :: .char ':' :: (ts ++ .char ')' :: tokenize cs) := by
    rw [String.toList_append, String.toList_append, List.append_assoc, List.append_assoc]
    exact congrArg (Token.char '(' :: Token.char '?' :: Token.char ':' :: ·) (h.tokens (')' :: cs))
  rw [htokens]
  exact Regex.goesOn_bracket (flags_spec caseInsensitive).1 h.two_items (h.tokens_ne _) hcs
    (fun d' hd' => h.goesOn d' _ hd' ⟨nofun, rfl, rfl⟩) hd

/-! ## Reading the joined expression -/

theorem goesOn_bar {d : Draft} (hd : d.frame.flags.verbose = false)
    (hopener : d.frame.opener = .whole) {rest : List Token} (hrest : rest ≠ [.danglingBackslash]) :
    d.GoesOn (.char '|' :: rest)
      { d with
        frame := { d.frame with branches := d.frame.items :: d.frame.branches, items := [] } }
      rest := by
  refine .of_step nofun ?_ (Nat.le_refl _)
  unfold Draft.step
  rw [afterFirst_of_ne hrest]
  show d.readChar '|' rest = _
  unfold Draft.readChar
  dsimp only
  rw [hd]
  have hnext : d.nextBranch = .ok
      { d with
        frame := { d.frame with branches := d.frame.items :: d.frame.branches, items := [] } } := by
    unfold Draft.nextBranch
    rw [hopener]
  rw [hnext]
  rfl

theorem toList_alternationSource (s s' : Scope) (ss : List Scope) :
    (Term.alternationSource (s :: s' :: ss)).toList =
      ("(?:" ++ s.source ++ ")").toList ++ '|' :: (Term.alternationSource (s' :: ss)).toList := by
  rw [Term.alternationSource, List.map_cons, List.map_cons, String.intercalate_cons_cons,
    String.toList_append, String.toList_append, List.append_assoc]
  rfl

/-- A joined expression begins with a bracket. -/
theorem tokenize_alternationSource_ne (s : Scope) (ss : List Scope) :
    tokenize (Term.alternationSource (s :: ss)).toList ≠ [.danglingBackslash] := by
  have hopens : ∃ cs, (Term.alternationSource (s :: ss)).toList = '(' :: cs := by
    cases ss with
    | nil =>
      rw [show Term.alternationSource [s] = "(?:" ++ s.source ++ ")" from rfl, String.toList_append,
        String.toList_append, List.append_assoc]
      exact ⟨_, rfl⟩
    | cons s' ss =>
      rw [toList_alternationSource, String.toList_append, String.toList_append, List.append_assoc,
        List.append_assoc]
      exact ⟨_, rfl⟩
  obtain ⟨cs, hcs⟩ := hopens
  rw [hcs, tokenize_cons_of_ne (by decide)]
  exact fun he => by cases he

/-- The draft in front of a branch, behind the branches that have been read. -/
def Draft.behind (flags : Flags) (branches : List (List Item)) : Draft :=
  { frame := { opener := .whole, flags, branches } }

/-- The expressions run as those of the scopes. -/
def RunAlike (caseInsensitive : Bool) : List Regex → List Scope → Prop :=
  List.Forall₂ fun r s => ∀ t, r.run t = (s.plainRegex (foldOf caseInsensitive)).run t

/-- **The joined expression is read**, each plain term as a branch of one item. -/
theorem exists_goesOn_alternation (caseInsensitive : Bool) : ∀ (s : Scope) (ss : List Scope),
    (∀ s' ∈ s :: ss, s'.IsPlain) →
    ∃ rs, RunAlike caseInsensitive rs (s :: ss) ∧ ∀ branches, ∃ f : Frame,
      f.flags = Pattern.flags caseInsensitive ∧
      f.allBranches = (branches.map List.reverse).reverse ++ rs.map (fun r => [⟨.other, r⟩]) ∧
      (Draft.behind (Pattern.flags caseInsensitive) branches).GoesOn
        (tokenize (Term.alternationSource (s :: ss)).toList) { frame := f } []
  | s, [], h => by
    obtain ⟨ts, is, hs⟩ := exists_isReadAs (h s List.mem_cons_self) caseInsensitive
    refine ⟨[branchRegex is], .cons hs.run .nil, fun branches => ?_⟩
    have hempty : tokenize [] ≠ [.danglingBackslash] := nofun
    have hread := hs.goesOn_bracket hempty
      (d := .behind (Pattern.flags caseInsensitive) branches) rfl
    rw [List.append_nil] at hread
    exact ⟨_, rfl, rfl, hread⟩
  | s, s' :: ss, h => by
    obtain ⟨ts, is, hs⟩ := exists_isReadAs (h s List.mem_cons_self) caseInsensitive
    obtain ⟨rs, hrs, hrest⟩ := exists_goesOn_alternation caseInsensitive s' ss
      fun s'' hs'' => h s'' (List.mem_cons_of_mem s hs'')
    refine ⟨branchRegex is :: rs, .cons hs.run hrs, fun branches => ?_⟩
    obtain ⟨f, hflags, hall, hread⟩ := hrest ([⟨.other, branchRegex is⟩] :: branches)
    refine ⟨f, hflags, ?_, ?_⟩
    · rw [hall, List.map_cons, List.reverse_cons, List.append_assoc]
      rfl
    · have htokens := tokenize_cons_of_ne (c := '|') (by decide)
        (Term.alternationSource (s' :: ss)).toList
      have hne : tokenize ('|' :: (Term.alternationSource (s' :: ss)).toList) ≠
          [.danglingBackslash] := by
        rw [htokens]
        exact fun he => by cases he
      have hfirst := hs.goesOn_bracket hne
        (d := .behind (Pattern.flags caseInsensitive) branches) rfl
      rw [htokens] at hfirst
      rw [toList_alternationSource]
      have hbar := goesOn_bar (d := (Draft.behind (Pattern.flags caseInsensitive) branches).pushAll
        [⟨.other, branchRegex is⟩]) (flags_spec caseInsensitive).1 rfl
        (tokenize_alternationSource_ne s' ss)
      exact (hfirst.trans hbar).trans hread

/-! ## The joined expression -/

variable {caseInsensitive : Bool} {t : Array Char}

/-- Branches of one item that is no test on one character do not become a set. -/
theorem Frame.node_toItem_of_branches {f : Frame} {rs : List Regex} (hne : rs ≠ [])
    (hall : f.allBranches = rs.map fun r => [⟨.other, r⟩]) : f.toItem.node = ofAlt rs := by
  have hbranch : ∀ r, branchRegex [⟨.other, r⟩] = r := fun _ => rfl
  unfold Frame.toItem
  rw [hall]
  cases rs with
  | nil => exact absurd rfl hne
  | cons r rs =>
    cases rs with
    | nil => rfl
    | cons r' rs =>
      have hset : setOfBranches? ((r :: r' :: rs).map fun r => [⟨.other, r⟩]) = none := rfl
      rw [List.map_cons, List.map_cons] at hset ⊢
      dsimp only
      rw [hset]
      show ofAlt (((r :: r' :: rs).map fun r => [⟨.other, r⟩]).map branchRegex) = _
      rw [List.map_map, show branchRegex ∘ (fun r => [⟨.other, r⟩]) = id from funext hbranch,
        List.map_id]

theorem run_ofAlt_cons (r r' : Regex) (rs : List Regex) (k : Cont) (s : State) :
    (ofAlt (r :: r' :: rs)).run t k s = (r.run t k s <|> (ofAlt (r' :: rs)).run t k s) := by
  show (Regex.alt r (ofAlt (r' :: rs))).run t k s = _
  rw [run]
  cases r.run t k s <;> rfl

/-- Alternatives of expressions that run alike run alike. -/
theorem run_ofAlt_congr {rs rs' : List Regex}
    (h : List.Forall₂ (fun r r' => r.run t = r'.run t) rs rs') :
    (ofAlt rs).run t = (ofAlt rs').run t := by
  induction h with
  | nil => rfl
  | cons hr hrs ih =>
    cases hrs with
    | nil => exact hr
    | cons hr' hrs =>
      funext k s
      rw [run_ofAlt_cons, run_ofAlt_cons, hr, ih]

/-- **Plain terms are joined to an expression**, which runs as the alternative of theirs. -/
theorem parse_alternation {ss : List Scope} (hne : ss ≠ []) (h : ∀ s ∈ ss, s.IsPlain)
    (caseInsensitive : Bool) :
    ∃ r, parse (Pattern.flags caseInsensitive) (Term.alternationSource ss) = .ok ⟨r, 0⟩ ∧
      ∀ t, r.run t = (ofAlt (ss.map (Scope.plainRegex (foldOf caseInsensitive)))).run t := by
  cases ss with
  | nil => exact absurd rfl hne
  | cons s ss =>
    obtain ⟨rs, hrs, hread⟩ := exists_goesOn_alternation caseInsensitive s ss h
    obtain ⟨f, hflags, hall, hread⟩ := hread []
    have hrsne : rs ≠ [] := by
      rintro rfl
      cases hrs
    have hascii : f.flags.ascii = false := hflags ▸ (flags_spec caseInsensitive).2.1
    refine ⟨ofAlt rs, ?_, fun t => ?_⟩
    · rw [← Frame.node_toItem_of_branches hrsne hall]
      exact parse_of_goesOn rfl (tokenize_alternationSource_ne s ss) hread hascii
    · refine run_ofAlt_congr ?_
      rw [List.forall₂_map_right_iff]
      exact hrs.imp fun r s hr => hr t

/-! ## What an alternative finds -/

theorem matchAt?_ofAlt {rs : List Regex} (hne : rs ≠ []) (groupCount i : Nat) :
    matchAt? t (ofAlt rs) groupCount i = rs.findSome? (matchAt? t · groupCount i) := by
  induction rs with
  | nil => exact absurd rfl hne
  | cons r rs ih =>
    rw [List.findSome?_cons]
    cases rs with
    | nil =>
      show matchAt? t r groupCount i = _
      cases matchAt? t r groupCount i <;> rfl
    | cons r' rs =>
      rw [← ih (List.cons_ne_nil _ _), matchAt?, matchAt?, matchAt?, run_ofAlt_cons]
      cases r.run t some { pos := i } <;> rfl

/-- **An alternative finds** what one of its expressions does: none of the others finds anything
further to the left, and none of those before it anything as far to the left. -/
theorem search?_ofAlt_eq_some_iff {rs : List Regex} (hne : rs ≠ []) {groupCount start : Nat}
    {m : Match} : (ofAlt rs).search? t groupCount start = some m ↔
      ∃ before r after, rs = before ++ r :: after ∧ r.search? t groupCount start = some m ∧
        (∀ r' ∈ before, ∀ m', r'.search? t groupCount start = some m' → m.start < m'.start) ∧
        ∀ r' ∈ after, ∀ m', r'.search? t groupCount start = some m' → m.start ≤ m'.start := by
  simp only [search?_iff_matchAt? (r := ofAlt rs), matchAt?_ofAlt hne, List.findSome?_eq_some_iff,
    List.findSome?_eq_none_iff]
  constructor
  · rintro ⟨hstart, hj, ⟨before, r, after, rfl, hm, hbefore⟩, hnone⟩
    have hleast : ∀ r' ∈ before ++ r :: after, ∀ m', r'.search? t groupCount start = some m' →
        m.start ≤ m'.start := by
      intro r' hr' m' hm'
      obtain ⟨hstart', -, hat, -⟩ := search?_iff_matchAt?.mp hm'
      refine Nat.not_lt.mp fun hlt => ?_
      rw [hnone m'.start hstart' hlt r' hr'] at hat
      cases hat
    have hfound := search?_iff_matchAt?.mpr
      ⟨hstart, hj, hm, fun j hle hlt => hnone j hle hlt r (by simp)⟩
    refine ⟨before, r, after, rfl, hfound, fun r' hr' m' hm' => ?_,
      fun r' hr' => hleast r' (by simp [hr'])⟩
    refine Nat.lt_of_le_of_ne (hleast r' (by simp [hr']) m' hm') fun heq => ?_
    have hat := (search?_iff_matchAt?.mp hm').2.2.1
    rw [← heq, hbefore r' hr'] at hat
    cases hat
  · rintro ⟨before, r, after, rfl, hm, hbefore, hafter⟩
    obtain ⟨hstart, hj, hat, hnone⟩ := search?_iff_matchAt?.mp hm
    refine ⟨hstart, hj, ⟨before, r, after, rfl, hat, fun r' hr' => ?_⟩, fun j hle hlt r' hr' => ?_⟩
    · rw [Option.eq_none_iff_forall_ne_some]
      intro m' hm'
      obtain ⟨m'', hm'', hle⟩ := exists_search?_of_matchAt? hstart hj hm'
      exact absurd (hbefore r' hr' m'' hm'') (Nat.not_lt.mpr hle)
    · rw [Option.eq_none_iff_forall_ne_some]
      intro m' hm'
      have hsize : j ≤ t.size := Nat.le_trans (Nat.le_of_lt hlt) hj
      obtain ⟨m'', hm'', hle'⟩ := exists_search?_of_matchAt? hle hsize hm'
      have hleast : m.start ≤ m''.start := by
        rcases List.mem_append.mp hr' with hr' | hr'
        · exact Nat.le_of_lt (hbefore r' hr' m'' hm'')
        · rcases List.mem_cons.mp hr' with rfl | hr'
          · cases hm.symm.trans hm''
            exact Nat.le_refl _
          · exact hafter r' hr' m'' hm''
      omega

/-- An alternative finds nothing exactly if none of its expressions does. -/
theorem search?_ofAlt_eq_none_iff {rs : List Regex} (hne : rs ≠ []) {groupCount start : Nat} :
    (ofAlt rs).search? t groupCount start = none ↔
      ∀ r ∈ rs, r.search? t groupCount start = none := by
  simp only [search?_eq_none_iff, matchAt?_ofAlt hne, List.findSome?_eq_none_iff]
  constructor
  · exact fun h r hr j hle hj => h j hle hj r hr
  · exact fun h j hle hj r hr => h r hr j hle hj

end Regex

end CiteSieve
