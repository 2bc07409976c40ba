import CiteSieve.Regex.Parser

/-!
# What the readers of an expression leave

The parts of an expression are read by small readers: names, numbers, escapes, sets, flag lists.
None of them is refused for anything but a flaw, and each goes on in what is left of its tokens.

* `Yields`: a result that is refused for a flaw only; `Yields.bind` and its companions follow a
  computation step by step.
* `yields_takeWhile`, `yields_readSet`, `yields_readFlags` and so on: one lemma for each reader.
-/

namespace CiteSieve.Regex

/-! ## Results -/

/-- A result that is refused for a flaw only, and satisfies `P` if it is there. -/
def Yields {α : Type} (P : α → Prop) : Except Error α → Prop
  | .ok a => P a
  | .error e => ∃ f, e = .flaw f

section Yields

variable {α β : Type} {P : α → Prop} {Q : β → Prop}

theorem yields_flaw (f : Flaw) : Yields P (.error (.flaw f)) :=
  ⟨f, rfl⟩

theorem Yields.bind {x : Except Error β} {f : β → Except Error α} (hx : Yields Q x)
    (hf : ∀ b, Q b → Yields P (f b)) : Yields P (x >>= f) := by
  cases x with
  | error e => exact hx
  | ok b => exact hf b hx

theorem Yields.map {x : Except Error β} {f : β → α} (hx : Yields Q x)
    (hf : ∀ b, Q b → P (f b)) : Yields P (x.map f) := by
  cases x with
  | error e => exact hx
  | ok b => exact hf b hx

/-- A guard that refuses for a flaw. -/
theorem yields_guard {c : Prop} [Decidable c] {x : Except Error PUnit}
    {next : PUnit → Except Error α} (hx : Yields (fun _ => False) x)
    (h : ¬ c → Yields P (next ⟨⟩)) : Yields P (if c then x >>= next else next ⟨⟩) := by
  split
  · exact hx.bind fun _ hfalse => hfalse.elim
  · rename_i hc
    exact h hc

/-- A computation that goes on in one of two ways. -/
theorem yields_either {c : Prop} [Decidable c] {x y : Except Error β} {next : β → Except Error α}
    (hx : c → Yields Q x) (hy : ¬ c → Yields Q y) (hnext : ∀ b, Q b → Yields P (next b)) :
    Yields P (if c then x >>= next else y >>= next) := by
  split
  · rename_i hc
    exact (hx hc).bind hnext
  · rename_i hc
    exact (hy hc).bind hnext

theorem Yields.mono {P' : α → Prop} {x : Except Error α} (hx : Yields P' x)
    (h : ∀ a, P' a → P a) : Yields P x := by
  cases x with
  | error e => exact hx
  | ok a => exact h a hx

end Yields

/-! ## Tokens -/

/-- The text that tokens stand for. -/
def textOf (ts : List Token) : List Char :=
  ts.flatMap Token.text

theorem textOf_tokenize (cs : List Char) : textOf (tokenize cs) = cs := by
  fun_induction tokenize cs with
  | case1 => rfl
  | case2 => rfl
  | case3 c cs ih => exact congrArg ('\\' :: c :: ·) ih
  | case4 c cs _ _ ih => exact congrArg (c :: ·) ih

theorem textOf_cons (t : Token) (ts : List Token) : textOf (t :: ts) = t.text ++ textOf ts :=
  List.flatMap_cons

theorem textOf_map_char (cs : List Char) (ts : List Token) :
    textOf (cs.map .char ++ ts) = cs ++ textOf ts := by
  unfold textOf
  rw [List.flatMap_append, List.flatMap_map]
  exact congrArg (· ++ _) (List.flatMap_singleton' cs)

theorem textOf_suffix {ts ts' : List Token} (h : ts <:+ ts') : textOf ts <:+ textOf ts' := by
  obtain ⟨pre, rfl⟩ := h
  unfold textOf
  rw [List.flatMap_append]
  exact List.suffix_append _ _

theorem yields_afterFirst (ts : List Token) :
    Yields (fun rest => rest = ts.tail) (afterFirst ts) := by
  unfold afterFirst
  split
  · exact yields_flaw _
  · rfl
  · rfl

theorem yields_take? (c : Char) (ts : List Token) :
    Yields (fun r => ∀ rest, r = some rest → ts = .char c :: rest) (take? c ts) := by
  unfold take?
  split
  · split
    · rename_i h
      refine (yields_afterFirst _).map fun b hb rest hrest => ?_
      cases hrest
      rw [hb, h]
      rfl
    · exact fun rest h => by cases h
  · exact fun rest h => by cases h

theorem yields_takeWhile (p : Char → Bool) (n : Nat) (ts : List Token) :
    Yields (fun r => ts = r.1.map .char ++ r.2 ∧ ∀ c ∈ r.1, p c = true) (takeWhile p n ts) := by
  fun_induction takeWhile p n ts with
  | case1 n c ts hc ih =>
    refine (yields_afterFirst _).bind fun _ _ => ih.bind ?_
    rintro ⟨cs, rest⟩ ⟨hts, hcs⟩
    exact ⟨congrArg (.char c :: ·) hts, List.forall_mem_cons.mpr ⟨hc, hcs⟩⟩
  | case2 n c ts hc => exact ⟨rfl, fun c hc => absurd hc List.not_mem_nil⟩
  | case3 => exact ⟨rfl, fun c hc => absurd hc List.not_mem_nil⟩

/-- What is left behind what has been read of `ts`. -/
def Leaves {α : Type} (ts : List Token) (r : α × List Token) : Prop :=
  r.2 <:+ ts

theorem Leaves.cons {α : Type} {ts : List Token} {r : α × List Token} (h : Leaves ts r)
    (t : Token) : Leaves (t :: ts) r :=
  List.IsSuffix.trans h (List.suffix_cons t ts)

theorem yields_takeWhile_leaves (p : Char → Bool) (n : Nat) (ts : List Token) :
    Yields (Leaves ts) (takeWhile p n ts) :=
  (yields_takeWhile p n ts).mono fun r hr => ⟨r.1.map .char, hr.1.symm⟩

theorem yields_takeName_go (stop : Char) (name : List Char) (ts : List Token) :
    Yields (Leaves ts) (takeName.go stop name ts) := by
  fun_induction takeName.go stop name ts with
  | case1 => exact yields_flaw _
  | case2 name t ts ih =>
    refine (yields_afterFirst _).bind fun _ _ => ?_
    split
    · exact List.suffix_cons t ts
    · exact ih.mono fun r hr => hr.cons t

theorem yields_takeName (stop : Char) (ts : List Token) :
    Yields (Leaves ts) (takeName stop ts) := by
  unfold takeName
  split
  · exact yields_flaw _
  · refine (yields_afterFirst _).bind fun _ _ => ?_
    split
    · exact yields_flaw _
    · exact (yields_takeName_go _ _ _).mono fun r hr => hr.cons _

/-! ## Escapes and sets -/

theorem yields_readHex (n : Nat) (ts : List Token) : Yields (Leaves ts) (readHex n ts) := by
  unfold readHex
  refine (yields_takeWhile_leaves _ n ts).bind ?_
  rintro ⟨cs, rest⟩ hrest
  dsimp only
  split
  · exact hrest
  · exact yields_flaw _

theorem yields_readCode (c : Char) (ts : List Token) : Yields (Leaves ts) (readCode c ts) := by
  unfold readCode
  split
  · exact yields_readHex 2 ts
  split
  · exact yields_readHex 4 ts
  split
  · refine (yields_readHex 8 ts).bind ?_
    rintro ⟨n, rest⟩ hrest
    dsimp only
    split
    · exact hrest
    · exact yields_flaw _
  split
  · refine (yields_take? _ ts).bind fun r hr => ?_
    split
    · refine (yields_takeName _ _).bind ?_
      rintro ⟨name, rest⟩ hrest
      dsimp only
      split
      · rw [hr _ rfl]
        exact Leaves.cons hrest _
      · exact yields_flaw _
    · exact yields_flaw _
  split
  · exact yields_flaw _
  · exact List.suffix_refl ts

theorem yields_readSetEscape (ascii : Bool) (c : Char) (ts : List Token) :
    Yields (Leaves ts) (readSetEscape ascii c ts) := by
  unfold readSetEscape
  split
  · exact List.suffix_refl ts
  split
  · exact List.suffix_refl ts
  split
  · refine (yields_takeWhile_leaves _ 2 ts).bind ?_
    rintro ⟨cs, rest⟩ hrest
    dsimp only
    split
    · exact hrest
    · exact yields_flaw _
  · refine (yields_readCode c ts).bind ?_
    rintro ⟨n, rest⟩ hrest
    exact hrest

theorem yields_readSetEntry (ascii : Bool) (t : Token) (ts : List Token) :
    Yields (Leaves ts) (readSetEntry ascii t ts) := by
  cases t with
  | char c => exact List.suffix_refl ts
  | escape c => exact yields_readSetEscape ascii c ts
  | danglingBackslash => exact yields_flaw _

theorem yields_rangeOf (first last : SetItem) : Yields (fun _ => True) (rangeOf first last) := by
  unfold rangeOf
  split
  · split
    · trivial
    · exact yields_flaw _
  · exact yields_flaw _

theorem yields_readSetItems (ascii : Bool) (fuel : Nat) (items : List SetItem)
    (ts : List Token) : Yields (Leaves ts) (readSetItems ascii fuel items ts) := by
  induction fuel generalizing items ts with
  | zero => exact yields_flaw _
  | succ fuel ih =>
    cases ts with
    | nil => exact yields_flaw _
    | cons t ts =>
      rw [readSetItems]
      refine (yields_afterFirst _).bind fun _ _ => ?_
      split
      · exact List.suffix_cons t ts
      refine (yields_readSetEntry ascii t ts).bind ?_
      rintro ⟨item, rest⟩ hrest
      have hrest' : rest <:+ t :: ts := hrest.cons t
      refine (yields_take? '-' rest).bind fun dash hdash => ?_
      split
      · exact (ih _ rest).mono fun r hr => List.IsSuffix.trans hr hrest'
      · exact yields_flaw _
      · rename_i t' ts'
        have hts' : ts' <:+ t :: ts := by
          rw [hdash _ rfl] at hrest'
          exact ((List.suffix_cons t' ts').trans (List.suffix_cons _ _)).trans hrest'
        refine (yields_afterFirst _).bind fun _ _ => ?_
        split
        · exact hts'
        refine (yields_readSetEntry ascii t' ts').bind ?_
        rintro ⟨last, rest'⟩ hlast
        refine (yields_rangeOf item last).bind fun range _ => ?_
        exact (ih _ rest').mono fun r hr => (List.IsSuffix.trans hr hlast).trans hts'

theorem yields_readSet (ascii : Bool) (fold : Fold) (ts : List Token) :
    Yields (Leaves ts) (readSet ascii fold ts) := by
  unfold readSet
  refine (yields_take? '^' ts).bind fun caret hcaret => ?_
  have hts : caret.getD ts <:+ ts := by
    cases caret with
    | none => exact List.suffix_refl ts
    | some rest =>
      rw [hcaret rest rfl]
      exact List.suffix_cons _ rest
  refine (yields_readSetItems ascii _ [] _).bind ?_
  rintro ⟨items, rest⟩ hrest
  have hleaves : rest <:+ ts := List.IsSuffix.trans hrest hts
  dsimp only
  split
  · exact hleaves
  · exact hleaves

/-! ## Flags -/

/-- A list of letters that name flags. -/
def AreFlags (letters : List Char) : Prop :=
  ∀ c ∈ letters, flagLetters.contains c = true

theorem yields_readOn (on : List Char) (letter : Char) (ts : List Token) :
    Yields (fun r => ∃ more, AreFlags more ∧ r.1 = on ++ letter :: more ∧
      ts = more.map .char ++ .char r.2.1 :: r.2.2) (readOn on letter ts) := by
  induction ts generalizing on letter with
  | nil => exact yields_flaw _
  | cons t ts ih =>
    cases t with
    | escape c => exact yields_flaw _
    | danglingBackslash => exact yields_flaw _
    | char d =>
      rw [readOn]
      refine yields_guard (yields_flaw _) fun _ => ?_
      dsimp only
      refine yields_guard (yields_flaw _) fun _ => ?_
      refine (yields_afterFirst _).bind fun _ _ => ?_
      split
      · exact ⟨[], fun c hc => absurd hc List.not_mem_nil, rfl, rfl⟩
      split
      · rename_i hd
        refine (ih (on ++ [letter]) d).mono ?_
        rintro ⟨on', stop, rest⟩ ⟨more, hmore, hon, hts⟩
        refine ⟨d :: more, List.forall_mem_cons.mpr ⟨hd, hmore⟩, ?_, ?_⟩
        · rw [hon, List.append_assoc]
          rfl
        · rw [hts]
          rfl
      · exact yields_flaw _

theorem yields_readOff (off : List Char) (letter : Char) (ts : List Token) :
    Yields (Leaves ts) (readOff off letter ts) := by
  induction ts generalizing off letter with
  | nil => exact yields_flaw _
  | cons t ts ih =>
    cases t with
    | escape c => exact yields_flaw _
    | danglingBackslash => exact yields_flaw _
    | char d =>
      rw [readOff]
      refine yields_guard (yields_flaw _) fun _ => ?_
      dsimp only
      refine (yields_afterFirst _).bind fun _ _ => ?_
      split
      · exact List.suffix_cons _ ts
      split
      · exact (ih _ d).mono fun r hr => hr.cons _
      · exact yields_flaw _

theorem yields_readMinus (on : List Char) (ts : List Token) :
    Yields (fun r => Leaves ts r ∧ ∃ on off, r.1 = .scoped on off) (readMinus on ts) := by
  unfold readMinus
  split
  · refine (yields_afterFirst _).bind fun _ _ => ?_
    refine yields_guard (yields_flaw _) fun _ => ?_
    refine (yields_readOff _ _ _).bind ?_
    rintro ⟨off, rest⟩ hrest
    refine yields_guard (yields_flaw _) fun _ => ?_
    exact ⟨hrest.cons _, _, _, rfl⟩
  · exact yields_flaw _

/-- What a flag list leaves; one for the whole expression is all letters, up to a parenthesis. -/
def LeavesFlags (first : Char) (ts : List Token) (r : FlagChange × List Token) : Prop :=
  Leaves ts r ∧ ∀ on, r.1 = .whole on → first ≠ '-' ∧
    ∃ more, AreFlags more ∧ on = first :: more ∧ ts = more.map .char ++ .char ')' :: r.2

theorem yields_readFlags (first : Char) (ts : List Token) :
    Yields (LeavesFlags first ts) (readFlags first ts) := by
  have hminus : ∀ {ts' : List Token} {r : FlagChange × List Token}, ts' <:+ ts →
      (Leaves ts' r ∧ ∃ on off, r.1 = .scoped on off) → LeavesFlags first ts r := by
    rintro ts' r hts' ⟨hleaves, on, off, hscoped⟩
    refine ⟨List.IsSuffix.trans hleaves hts', fun on' hwhole => ?_⟩
    cases hscoped.symm.trans hwhole
  unfold readFlags
  split
  · exact (yields_readMinus [] ts).mono fun r hr => hminus (List.suffix_refl ts) hr
  · rename_i hfirst
    refine (yields_readOn [] first ts).bind ?_
    rintro ⟨on, stop, rest⟩ ⟨more, hmore, hon, hts⟩
    dsimp only at hon hts ⊢
    have hrest : rest <:+ ts := by
      rw [hts]
      exact (List.suffix_cons _ rest).trans (List.suffix_append _ _)
    split
    · rename_i hstop
      refine ⟨hrest, fun on' he => ?_⟩
      cases he
      exact ⟨hfirst, more, hmore, hon, hstop ▸ hts⟩
    split
    · exact yields_flaw _
    split
    · exact ⟨hrest, fun on' he => by cases he⟩
    · exact (yields_readMinus on rest).mono fun r hr => hminus hrest hr

end CiteSieve.Regex
