import CiteSieve.Term

/-!
# Escaped texts are read back

Every character of an escaped text is read as itself, whatever it means elsewhere in an expression.
So an escaped text is an expression that matches the text, and so are the expressions of a word and
of a stem, which set it between marks.

* `Draft.GoesOn`: the reader gets over some tokens; `goesOn_escaped`: over an escaped text
  character by character.
* `parse_escape`: the expression of an escaped text, which runs as the text (`run_escaped`).
* `parse_word`, `parse_stem`: the expressions of plain terms, which run as the patterns that are
  used for them (`run_behind_edge`).
-/

namespace CiteSieve.Regex

/-! ## Tokens -/

/-- How a character of an escaped text comes out as a token. -/
def escapedToken (c : Char) : Token :=
  if isSpecial c then .escape c else .char c

theorem tokenize_cons_of_ne {c : Char} (hc : c ≠ '\\') (cs : List Char) :
    tokenize (c :: cs) = .char c :: tokenize cs := by
  conv => lhs; unfold tokenize
  split
  · rename_i h
    cases h
  · rename_i h
    exact absurd (List.cons.inj h).1 hc
  · rename_i h
    exact absurd (List.cons.inj h).1 hc
  · rename_i h
    cases h
    rfl

theorem tokenize_escapeChars_append (cs rest : List Char) :
    tokenize (escapeChars cs ++ rest) = cs.map escapedToken ++ tokenize rest := by
  induction cs with
  | nil => rfl
  | cons c cs ih =>
    rw [escapeChars, List.flatMap_cons, List.append_assoc, List.map_cons, List.cons_append, ← ih,
      ← escapeChars, escapedToken]
    split
    · rfl
    · rename_i hc
      refine tokenize_cons_of_ne ?_ _
      rintro rfl
      exact hc (by decide)

theorem escapedToken_ne {t : Token} (ht : t = .danglingBackslash ∨ t = .char ')') (c : Char) :
    escapedToken c ≠ t := by
  unfold escapedToken
  rintro rfl
  split at ht
  · rcases ht with h | h
    · cases h
    · cases h
  · rename_i hc
    rcases ht with h | h
    · cases h
    · cases h
      exact hc (by decide)

/-- A token can be taken unless a backslash that ends the text comes next. -/
theorem afterFirst_of_ne {ts : List Token} (h : ts ≠ [.danglingBackslash]) (t : Token) :
    afterFirst (t :: ts) = .ok ts := by
  unfold afterFirst
  split
  · rename_i he
    cases he
    exact absurd rfl h
  · rename_i he
    cases he
    rfl
  · rename_i he
    cases he

theorem escapedTokens_append_ne {rest : List Token} (h : rest ≠ [.danglingBackslash])
    (cs : List Char) : cs.map escapedToken ++ rest ≠ [.danglingBackslash] := by
  cases cs with
  | nil => exact h
  | cons c cs =>
    intro he
    exact escapedToken_ne (.inl rfl) c (List.cons.inj he).1

/-! ## One character -/

/-- A character without a meaning of its own stands for itself. -/
theorem readChar_of_not_special {d : Draft} (hd : d.frame.flags.verbose = false) {c : Char}
    (hc : isSpecial c = false) (ts : List Token) :
    d.readChar c ts = .ok (d.pushCode c.toNat, ts) := by
  have hne : ∀ {m : Char}, isSpecial m = true → c ≠ m := by
    rintro m hm rfl
    rw [hc] at hm
    cases hm
  unfold Draft.readChar
  simp only [hd, Bool.false_and, Bool.false_eq_true, if_false]
  split
  all_goals first
    | rfl
    | exact absurd rfl (hne (by decide))

theorem ne_of_isAlphanum {c m : Char} (hc : c.isAlphanum = false) (hm : m.isAlphanum = true) :
    c ≠ m := by
  rintro rfl
  rw [hc] at hm
  cases hm

theorem readCode_of_not_alphanum {c : Char} (hc : c.isAlphanum = false) (ts : List Token) :
    readCode c ts = .ok (c.toNat, ts) := by
  unfold readCode
  rw [if_neg (ne_of_isAlphanum hc (by decide)), if_neg (ne_of_isAlphanum hc (by decide)),
    if_neg (ne_of_isAlphanum hc (by decide)), if_neg (ne_of_isAlphanum hc (by decide)), hc,
    if_neg Bool.false_ne_true]

/-- No special character is a letter or a digit, and only the backslash names itself. -/
theorem special_spec {c : Char} (hc : isSpecial c = true) :
    c.isAlphanum = false ∧ c.isDigit = false ∧
      (controlCode? c = none ∨ controlCode? c = some c.toNat) ∧
      ∀ ascii, anchor? ascii c = none ∧ kindItem? ascii c = none := by
  have hall : ∀ c ∈ "()[]\x7b\x7d?*+-|^$\\.&~# \t\n\r\x0b\x0c".toList,
      c.isAlphanum = false ∧ c.isDigit = false ∧
        (controlCode? c = none ∨ controlCode? c = some c.toNat) ∧
        ∀ ascii, anchor? ascii c = none ∧ kindItem? ascii c = none := by
    decide
  exact hall c (List.contains_iff_mem.mp hc)

/-- A character with a meaning of its own stands for itself behind a backslash. -/
theorem readEscape_of_special (d : Draft) {c : Char} (hc : isSpecial c = true)
    (ts : List Token) : d.readEscape c ts = .ok (d.pushCode c.toNat, ts) := by
  obtain ⟨halphanum, hdigit, hcontrol, hletter⟩ := special_spec hc
  obtain ⟨hanchor, hkind⟩ := hletter d.frame.flags.ascii
  unfold Draft.readEscape
  simp only [hanchor, hkind]
  obtain hcontrol | hcontrol := hcontrol
  · rw [hcontrol]
    dsimp only
    rw [if_neg (ne_of_isAlphanum halphanum (by decide)), hdigit, if_neg Bool.false_ne_true,
      readCode_of_not_alphanum halphanum]
    rfl
  · rw [hcontrol]

/-! ## Getting over tokens -/

/-- The reader gets from `d` before the tokens `ts` to `d'` before `rest`, with at most a step for
each token that it takes. -/
def Draft.GoesOn (d : Draft) (ts : List Token) (d' : Draft) (rest : List Token) : Prop :=
  ∃ n, n + rest.length ≤ ts.length ∧ ∀ fuel, d.read (n + fuel) ts = d'.read fuel rest

namespace Draft.GoesOn

variable {d d' d'' : Draft} {ts rest rest' : List Token} {t : Token}

theorem refl (d : Draft) (ts : List Token) : d.GoesOn ts d ts :=
  ⟨0, Nat.le_of_eq (Nat.zero_add _), fun fuel => by rw [Nat.zero_add]⟩

theorem trans (h : d.GoesOn ts d' rest) (h' : d'.GoesOn rest d'' rest') :
    d.GoesOn ts d'' rest' := by
  obtain ⟨n, hn, hread⟩ := h
  obtain ⟨n', hn', hread'⟩ := h'
  refine ⟨n + n', by omega, fun fuel => ?_⟩
  rw [Nat.add_assoc, hread, hread']

/-- One step of a reading that goes on. -/
theorem of_step (ht : t = .char ')' → d.outer ≠ []) (hstep : d.step t ts = .ok (d', rest))
    (hle : rest.length ≤ ts.length) : d.GoesOn (t :: ts) d' rest := by
  refine ⟨1, ?_, fun fuel => ?_⟩
  · rw [List.length_cons]
    omega
  · have hends : ¬ (t = .char ')' ∧ d.outer.isEmpty) := fun h =>
      ht h.1 (List.isEmpty_iff.mp h.2)
    rw [Nat.add_comm, Draft.read, if_neg hends, hstep]

end Draft.GoesOn

/-! ## A whole text -/

/-- The item of a character that stands for itself. -/
def codeItem (fold : Fold) (c : Char) : Item :=
  ⟨.char, .char (.one c.toNat false fold)⟩

/-- Add items to the current branch. -/
def Draft.pushAll (d : Draft) (is : List Item) : Draft :=
  { d with frame := { d.frame with items := is.reverse ++ d.frame.items } }

theorem Draft.pushAll_pushAll (d : Draft) (is js : List Item) :
    (d.pushAll is).pushAll js = d.pushAll (is ++ js) := by
  unfold Draft.pushAll
  simp only [List.reverse_append, List.append_assoc]

theorem Draft.step_escapedToken {d : Draft} (hd : d.frame.flags.verbose = false) (c : Char)
    {ts : List Token} (hts : ts ≠ [.danglingBackslash]) :
    d.step (escapedToken c) ts = .ok (d.pushAll [codeItem d.frame.flags.fold c], ts) := by
  unfold Draft.step
  rw [afterFirst_of_ne hts]
  unfold escapedToken
  cases hc : isSpecial c with
  | true => exact readEscape_of_special d hc ts
  | false => exact readChar_of_not_special hd hc ts

/-- **An escaped text is read character by character.** -/
theorem goesOn_escaped {d : Draft} (hd : d.frame.flags.verbose = false) {rest : List Token}
    (hrest : rest ≠ [.danglingBackslash]) (cs : List Char) :
    d.GoesOn (cs.map escapedToken ++ rest) (d.pushAll (cs.map (codeItem d.frame.flags.fold)))
      rest := by
  induction cs generalizing d with
  | nil => exact .refl d rest
  | cons c cs ih =>
    have hstep := Draft.step_escapedToken hd c (escapedTokens_append_ne hrest cs)
    have hnext := ih (d := d.pushAll [codeItem d.frame.flags.fold c]) hd
    rw [Draft.pushAll_pushAll] at hnext
    exact Draft.GoesOn.trans
      (.of_step (fun h => absurd h (escapedToken_ne (.inr rfl) c)) hstep (Nat.le_refl _)) hnext

/-! ## What has been read -/

/-- The flags that a pattern begins with choose no character set and skip nothing. -/
theorem flags_spec (caseInsensitive : Bool) :
    (Pattern.flags caseInsensitive).verbose = false ∧
      (Pattern.flags caseInsensitive).ascii = false ∧
      (Pattern.flags caseInsensitive).fold = Term.foldOf caseInsensitive := by
  cases caseInsensitive <;> exact ⟨rfl, rfl, rfl⟩

/-- The draft that a reading begins with. -/
def Draft.blank (flags : Flags) : Draft :=
  { frame := { opener := .whole, flags } }

theorem Frame.node_toItem {f : Frame} (h : f.branches = []) :
    f.toItem.node = branchRegex f.items.reverse := by
  have hall : f.allBranches = [f.items.reverse] := by
    rw [Frame.allBranches, h]
    rfl
  unfold Frame.toItem
  rw [hall]
  cases f.items.reverse with
  | nil => rfl
  | cons i is =>
    cases is with
    | nil => rfl
    | cons j js => rfl

/-- A draft without groups ends with the expression of its frame. -/
theorem Draft.finish_frame {f : Frame} (h : f.flags.ascii = false) :
    ({ frame := f } : Draft).finish true = .ok ⟨f.toItem.node, 0⟩ := by
  unfold Draft.finish
  dsimp only
  rw [h]
  rfl

/-- **What is read to its end** is an expression, that of the frame that is left. -/
theorem parse_of_goesOn {flags : Flags} {source : String} {ts : List Token} {f : Frame}
    (hts : tokenize source.toList = ts) (hne : ts ≠ [.danglingBackslash])
    (hread : (Draft.blank flags).GoesOn ts { frame := f } []) (hf : f.flags.ascii = false) :
    parse flags source = .ok ⟨f.toItem.node, 0⟩ := by
  obtain ⟨n, hn, hread⟩ := hread
  have hlen : ts.length = n + (ts.length - n) := by
    rw [List.length_nil] at hn
    omega
  have hend : ∀ fuel, ({ frame := f } : Draft).read fuel [] = .ok ⟨f.toItem.node, 0⟩ := by
    intro fuel
    cases fuel with
    | zero => exact Draft.finish_frame hf
    | succ fuel => exact Draft.finish_frame hf
  unfold parse
  dsimp only
  rw [hts, if_neg hne, hlen]
  exact (hread _).trans (hend _)

/-- A reading that has met nothing but items ends with their expression. -/
theorem parse_of_goesOn_items {caseInsensitive : Bool} {source : String} {ts : List Token}
    {is : List Item} (hts : tokenize source.toList = ts) (hne : ts ≠ [.danglingBackslash])
    (hread : (Draft.blank (Pattern.flags caseInsensitive)).GoesOn ts
      ((Draft.blank (Pattern.flags caseInsensitive)).pushAll is) []) :
    parse (Pattern.flags caseInsensitive) source = .ok ⟨branchRegex is, 0⟩ := by
  have hitems : (is.reverse ++ []).reverse = is := by
    rw [List.append_nil, List.reverse_reverse]
  have hnode : ((Draft.blank (Pattern.flags caseInsensitive)).pushAll is).frame.toItem.node =
      branchRegex is :=
    (Frame.node_toItem rfl).trans (congrArg branchRegex hitems)
  rw [← hnode]
  exact parse_of_goesOn hts hne hread (flags_spec caseInsensitive).2.1

/-- **An escaped text is an expression**, of its characters. -/
theorem parse_escape (term : String) (caseInsensitive : Bool) :
    parse (Pattern.flags caseInsensitive) (escape term) =
      .ok ⟨branchRegex (term.toList.map (codeItem (Term.foldOf caseInsensitive))), 0⟩ := by
  obtain ⟨hverbose, -, hfold⟩ := flags_spec caseInsensitive
  have htokens : tokenize (escape term).toList = term.toList.map escapedToken ++ [] := by
    have h := tokenize_escapeChars_append term.toList []
    rwa [List.append_nil, tokenize, ← String.toList_ofList (l := escapeChars term.toList)] at h
  have hnil : ([] : List Token) ≠ [.danglingBackslash] := nofun
  rw [← hfold]
  exact parse_of_goesOn_items htokens (escapedTokens_append_ne hnil _)
    (goesOn_escaped (d := .blank _) hverbose hnil term.toList)

/-! ## Plain terms -/

/-- The item of the edge of a word. -/
def edgeItem : Item :=
  ⟨.anchor, edge⟩

/-- The item of what may extend a stem. -/
def tailItem (fold : Fold) : Item :=
  ⟨.repetition, .repeat .greedy 0 none (.char (Term.stemTail fold))⟩

theorem goesOn_edge {d : Draft} (hd : d.frame.flags.ascii = false) {rest : List Token}
    (hrest : rest ≠ [.danglingBackslash]) :
    d.GoesOn (.escape 'b' :: rest) (d.pushAll [edgeItem]) rest := by
  refine .of_step nofun ?_ (Nat.le_refl _)
  unfold Draft.step
  rw [afterFirst_of_ne hrest]
  show d.readEscape 'b' rest = _
  unfold Draft.readEscape
  dsimp only
  rw [hd]
  rfl

/-- The tokens of what may extend a stem. -/
def tailTokens : List Token :=
  [.char '[', .escape 'w', .char '-', .char ']', .char '*']

/-- What stands behind a repetition and says nothing about its order. -/
structure EndsRepetition (rest : List Token) : Prop where
  ne : rest ≠ [.danglingBackslash]
  lazy : take? '?' rest = .ok none
  possessive : take? '+' rest = .ok none

theorem goesOn_tail {d : Draft} (hverbose : d.frame.flags.verbose = false)
    (hascii : d.frame.flags.ascii = false) (htemplate : d.frame.flags.template = false)
    {rest : List Token} (hrest : EndsRepetition rest) :
    d.GoesOn (tailTokens ++ rest) (d.pushAll [tailItem d.frame.flags.fold]) rest := by
  have hset : d.step (.char '[') (tailTokens.tail ++ rest) =
      .ok (d.pushChar (Term.stemTail d.frame.flags.fold), .char '*' :: rest) := by
    show d.readChar '[' _ = _
    unfold Draft.readChar
    dsimp only
    rw [hverbose, hascii]
    rfl
  have hrepeat : (d.pushChar (Term.stemTail d.frame.flags.fold)).repeatLast 0 none rest =
      .ok (d.pushAll [tailItem d.frame.flags.fold], rest) := by
    have h : (d.pushChar (Term.stemTail d.frame.flags.fold)).frame.flags.template = false :=
      htemplate
    unfold Draft.repeatLast
    rw [h, hrest.lazy, hrest.possessive]
    rfl
  have hstar : (d.pushChar (Term.stemTail d.frame.flags.fold)).step (.char '*') rest =
      .ok (d.pushAll [tailItem d.frame.flags.fold], rest) := by
    have h : (d.pushChar (Term.stemTail d.frame.flags.fold)).frame.flags.verbose = false :=
      hverbose
    unfold Draft.step
    rw [afterFirst_of_ne hrest.ne]
    show (d.pushChar (Term.stemTail d.frame.flags.fold)).readChar '*' rest = _
    unfold Draft.readChar
    dsimp only
    rw [h]
    exact hrepeat
  have hle : (Token.char '*' :: rest).length ≤ (tailTokens.tail ++ rest).length := by
    simp [tailTokens]
  exact Draft.GoesOn.trans (.of_step nofun hset hle) (.of_step nofun hstar (Nat.le_refl _))

/-- An escaped text behind the edge of a word, and an item behind it. -/
theorem goesOn_behind_edge {caseInsensitive : Bool} {ts rest : List Token} {i : Item} {d : Draft}
    (hd : d.frame.flags = Pattern.flags caseInsensitive) (hts : ts ≠ [.danglingBackslash])
    (hitem : ∀ d' : Draft, d'.frame.flags = Pattern.flags caseInsensitive →
      d'.GoesOn ts (d'.pushAll [i]) rest) (cs : List Char) :
    d.GoesOn (.escape 'b' :: (cs.map escapedToken ++ ts))
      (d.pushAll (edgeItem :: (cs.map (codeItem (Term.foldOf caseInsensitive)) ++ [i]))) rest := by
  obtain ⟨hverbose, hascii, hfold⟩ := flags_spec caseInsensitive
  rw [← hd] at hverbose hascii hfold
  have hedge := goesOn_edge hascii (escapedTokens_append_ne hts cs)
  have htext := goesOn_escaped (d := d.pushAll [edgeItem]) hverbose hts cs
  rw [Draft.pushAll_pushAll, show (d.pushAll [edgeItem]).frame.flags.fold = _ from hfold] at htext
  have hlast := hitem (d.pushAll ([edgeItem] ++ cs.map (codeItem (Term.foldOf caseInsensitive)))) hd
  rw [Draft.pushAll_pushAll, List.append_assoc] at hlast
  exact (hedge.trans htext).trans hlast

/-- How the source of a word comes out as tokens. -/
theorem tokenize_word (cs rest : List Char) :
    tokenize ((Term.Scope.word cs).source.toList ++ rest) =
      .escape 'b' :: (cs.map escapedToken ++ .escape 'b' :: tokenize rest) := by
  rw [Term.Scope.source, String.toList_ofList, List.append_assoc, List.append_assoc]
  exact congrArg (Token.escape 'b' :: ·) (tokenize_escapeChars_append cs ('\\' :: 'b' :: rest))

/-- How the source of a stem comes out as tokens. -/
theorem tokenize_stem (cs rest : List Char) :
    tokenize ((Term.Scope.stem cs).source.toList ++ rest) =
      .escape 'b' :: (cs.map escapedToken ++ (tailTokens ++ tokenize rest)) := by
  rw [Term.Scope.source, String.toList_ofList, List.append_assoc, List.append_assoc]
  exact congrArg (Token.escape 'b' :: ·)
    (tokenize_escapeChars_append cs ("[\\w-]*".toList ++ rest))

theorem goesOn_word {caseInsensitive : Bool} {rest : List Token} {d : Draft}
    (hd : d.frame.flags = Pattern.flags caseInsensitive) (hrest : rest ≠ [.danglingBackslash])
    (cs : List Char) :
    d.GoesOn (.escape 'b' :: (cs.map escapedToken ++ .escape 'b' :: rest))
      (d.pushAll (edgeItem ::
        (cs.map (codeItem (Term.foldOf caseInsensitive)) ++ [edgeItem]))) rest := by
  have hne : Token.escape 'b' :: rest ≠ [.danglingBackslash] := nofun
  exact goesOn_behind_edge hd hne
    (fun d' hd' => goesOn_edge (hd' ▸ (flags_spec caseInsensitive).2.1) hrest) cs

theorem goesOn_stem {caseInsensitive : Bool} {rest : List Token} {d : Draft}
    (hd : d.frame.flags = Pattern.flags caseInsensitive) (hrest : EndsRepetition rest)
    (cs : List Char) :
    d.GoesOn (.escape 'b' :: (cs.map escapedToken ++ (tailTokens ++ rest)))
      (d.pushAll (edgeItem :: (cs.map (codeItem (Term.foldOf caseInsensitive)) ++
        [tailItem (Term.foldOf caseInsensitive)]))) rest := by
  have hne : tailTokens ++ rest ≠ [.danglingBackslash] := nofun
  refine goesOn_behind_edge hd hne (fun d' hd' => ?_) cs
  obtain ⟨hverbose, hascii, hfold⟩ := flags_spec caseInsensitive
  have htemplate : (Pattern.flags caseInsensitive).template = false := rfl
  rw [← hd'] at hverbose hascii hfold htemplate
  rw [← hfold]
  exact goesOn_tail hverbose hascii htemplate hrest

/-- **The expression of a word.** -/
theorem parse_word (cs : List Char) (caseInsensitive : Bool) :
    parse (Pattern.flags caseInsensitive) (Term.Scope.word cs).source =
      .ok ⟨branchRegex
        (edgeItem :: (cs.map (codeItem (Term.foldOf caseInsensitive)) ++ [edgeItem])), 0⟩ := by
  have htokens := tokenize_word cs []
  rw [List.append_nil] at htokens
  have hnil : tokenize [] ≠ [.danglingBackslash] := nofun
  exact parse_of_goesOn_items htokens (fun h => by cases h) (goesOn_word rfl hnil cs)

/-- **The expression of a stem.** -/
theorem parse_stem (cs : List Char) (caseInsensitive : Bool) :
    parse (Pattern.flags caseInsensitive) (Term.Scope.stem cs).source =
      .ok ⟨branchRegex (edgeItem :: (cs.map (codeItem (Term.foldOf caseInsensitive)) ++
        [tailItem (Term.foldOf caseInsensitive)])), 0⟩ := by
  have htokens := tokenize_stem cs []
  rw [List.append_nil] at htokens
  have hnil : EndsRepetition (tokenize []) := ⟨nofun, rfl, rfl⟩
  exact parse_of_goesOn_items htokens (fun h => by cases h) (goesOn_stem rfl hnil cs)

/-! ## What is run -/

section Run

variable {t : Array Char}

theorem run_ofSeq_cons (r : Regex) (rs : List Regex) (k : Cont) :
    (ofSeq (r :: rs)).run t k = r.run t ((ofSeq rs).run t k) := by
  cases rs with
  | nil =>
    have hempty : (ofSeq []).run t k = k := funext fun _ => rfl
    rw [hempty]
    rfl
  | cons r' rs => rfl

/-- The characters of a text, and what stands behind them. -/
theorem run_ofSeq_literal (fold : Fold) (cs : List Char) (rs : List Regex) (k : Cont) :
    (ofSeq (cs.map (fun c => .char (.one c.toNat false fold)) ++ rs)).run t k =
      (literal fold cs).run t ((ofSeq rs).run t k) := by
  induction cs with
  | nil =>
    funext s
    rfl
  | cons c cs ih =>
    rw [List.map_cons, List.cons_append, run_ofSeq_cons, ih]
    rfl

theorem map_node_codeItem (fold : Fold) (cs : List Char) :
    (cs.map (codeItem fold)).map Item.node =
      cs.map fun c => .char (.one c.toNat false fold) := by
  rw [List.map_map]
  rfl

theorem run_escaped (fold : Fold) (cs : List Char) :
    (branchRegex (cs.map (codeItem fold))).run t = (literal fold cs).run t := by
  funext k
  have h := run_ofSeq_literal (t := t) fold cs [] k
  rw [List.append_nil] at h
  rw [branchRegex, map_node_codeItem, h]
  exact congrArg _ (funext fun _ => rfl)

theorem run_behind_edge (fold : Fold) (cs : List Char) (i : Item) :
    (branchRegex (edgeItem :: (cs.map (codeItem fold) ++ [i]))).run t =
      (Regex.seq edge (.seq (literal fold cs) i.node)).run t := by
  funext k
  rw [branchRegex, List.map_cons, List.map_append, map_node_codeItem, run_ofSeq_cons,
    run_ofSeq_literal]
  rfl

end Run

end CiteSieve.Regex
