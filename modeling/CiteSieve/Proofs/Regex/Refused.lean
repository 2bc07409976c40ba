import CiteSieve.Proofs.Regex.Readers

/-!
# Which expressions cannot be built

A text is no expression if it has a flaw. Besides, it may ask for what cannot be built: a repetition
count that is too long or too large, or ASCII and Unicode matching at once. A text that does not
(`IsModest`) is an expression or has a flaw.

* `yields_step`: what one step of the reader does to the flags for the whole expression, and where
  it goes on.
* `yields_read`, `yields_parse`: reading a modest text ends with an expression or with a flaw.
-/

namespace CiteSieve.Regex

/-! ## Modest texts -/

/-- Digits that stand in `cs` where a repetition count is read: behind an opening brace, or behind
a brace, digits and a comma. -/
def IsCountIn (cs ds : List Char) : Prop :=
  (∀ c ∈ ds, c.isDigit = true) ∧
    ∃ before, (before = [] ∨ ∃ low, (∀ c ∈ low, c.isDigit = true) ∧ before = low ++ [',']) ∧
      '\x7b' :: (before ++ ds) <:+: cs

/-- `cs` holds a flag list for the whole expression that has the letter. -/
def Asks (cs : List Char) (letter : Char) : Prop :=
  ∃ on, AreFlags on ∧ letter ∈ on ∧ '(' :: '?' :: (on ++ [')']) <:+: cs

/-- **A text that asks for nothing that cannot be built:** its counts are not too long to be read
and not too large, and it does not ask for ASCII and for Unicode matching. -/
structure IsModest (cs : List Char) : Prop where
  counts : ∀ ds, IsCountIn cs ds → ds.length ≤ countDigitLimit ∧ numberOf 10 ds < countLimit
  charset : ¬ (Asks cs 'a' ∧ Asks cs 'u')

/-- A text without braces and question marks is modest. -/
theorem isModest_of_not_mem {cs : List Char} (hbrace : '\x7b' ∉ cs) (hmark : '?' ∉ cs) :
    IsModest cs where
  counts := fun _ ⟨_, _, _, hwithin⟩ => absurd (hwithin.subset List.mem_cons_self) hbrace
  charset := fun ⟨⟨_, _, _, hwithin⟩, _⟩ =>
    hmark (hwithin.subset (List.mem_cons_of_mem _ List.mem_cons_self))

theorem yields_readCount {cs ds : List Char} (hcs : IsModest cs) (hds : IsCountIn cs ds) :
    Yields (fun _ => True) (readCount ds) := by
  obtain ⟨hlength, hvalue⟩ := hcs.counts ds hds
  unfold readCount
  rw [if_neg (Nat.not_lt.mpr hlength)]
  dsimp only
  rw [if_pos hvalue]
  trivial

theorem isInfix_of_append_suffix (pre mid post : List Char) {cs : List Char}
    (h : pre ++ (mid ++ post) <:+ cs) : pre ++ mid <:+: cs := by
  obtain ⟨before, rfl⟩ := h
  exact ⟨before, post, by simp only [List.append_assoc]⟩

/-- What a count or a pair of counts leaves. -/
def LeavesBounds (ts : List Token) (r : Option (Nat × Option Nat × List Token)) : Prop :=
  ∀ least most rest, r = some (least, most, rest) → rest <:+ ts

/-- Counts are read and compared. -/
theorem yields_counts {cs low high : List Char} (hcs : IsModest cs) (hlow : IsCountIn cs low)
    (hhigh : IsCountIn cs high) {ts rest : List Token} (hrest : rest <:+ ts) :
    Yields (LeavesBounds ts) (do
      let least ← if low = [] then .ok 0 else readCount low
      let most ← if high = [] then .ok none else (readCount high).map some
      if most.any (· < least) then refuse .leastAboveMost
      else .ok (some (least, most, rest))) := by
  refine yields_either (Q := fun _ => True) (fun _ => trivial)
    (fun _ => yields_readCount hcs hlow) fun least _ => ?_
  refine yields_either (Q := fun _ => True) (fun _ => trivial)
    (fun _ => (yields_readCount hcs hhigh).map fun _ _ => trivial) fun most _ => ?_
  dsimp only
  split
  · exact yields_flaw _
  · intro _ _ _ he
    cases he
    exact hrest

theorem leavesBounds_none (ts : List Token) : LeavesBounds ts none :=
  fun _ _ _ he => by cases he

theorem suffix_of_eq_cons {t : Token} {ts rest rest' : List Token} (h : rest <:+ ts)
    (he : rest = t :: rest') : rest' <:+ ts := by
  rw [he] at h
  exact (List.suffix_cons t rest').trans h

theorem yields_readBounds {cs : List Char} (hcs : IsModest cs) {ts : List Token}
    (hts : '\x7b' :: textOf ts <:+ cs) : Yields (LeavesBounds ts) (readBounds ts) := by
  unfold readBounds
  split
  · exact leavesBounds_none ts
  refine (yields_takeWhile _ _ ts).bind ?_
  rintro ⟨low, rest⟩ ⟨hlow, hdigits⟩
  dsimp only at hlow hdigits
  have hlowIn : IsCountIn cs low := by
    refine ⟨hdigits, [], .inl rfl, ?_⟩
    rw [hlow, textOf_map_char] at hts
    exact isInfix_of_append_suffix ['\x7b'] low _ hts
  have hrest : rest <:+ ts := ⟨_, hlow.symm⟩
  refine (yields_take? ',' rest).bind fun comma hcomma => ?_
  cases comma with
  | none =>
    refine (yields_take? _ rest).bind fun brace hbrace => ?_
    split
    · exact yields_counts hcs hlowIn hlowIn (suffix_of_eq_cons hrest (hbrace _ rfl))
    · exact leavesBounds_none ts
  | some rest' =>
    have hrest' : rest = .char ',' :: rest' := hcomma rest' rfl
    refine (yields_takeWhile _ _ rest').bind ?_
    rintro ⟨high, rest''⟩ ⟨hhigh, hdigits'⟩
    dsimp only at hhigh hdigits'
    have hhighIn : IsCountIn cs high := by
      refine ⟨hdigits', low ++ [','], .inr ⟨low, hdigits, rfl⟩, ?_⟩
      rw [hlow, hrest', hhigh, textOf_map_char, textOf_cons, textOf_map_char] at hts
      refine isInfix_of_append_suffix ('\x7b' :: (low ++ [','])) high (textOf rest'') ?_
      rw [List.cons_append, List.append_assoc]
      exact hts
    have hbehind : rest'' <:+ ts := by
      refine List.IsSuffix.trans ?_ (suffix_of_eq_cons hrest hrest')
      rw [hhigh]
      exact List.suffix_append _ _
    refine (yields_take? _ rest'').bind fun brace hbrace => ?_
    split
    · exact yields_counts hcs hlowIn hhighIn (suffix_of_eq_cons hbehind (hbrace _ rfl))
    · exact leavesBounds_none ts

/-! ## Drafts -/

/-- The flags for the whole expression, as far as it has been read. -/
def Draft.rootFlags (d : Draft) : Flags :=
  (d.outer.getLastD d.frame).flags

/-- The flags choose a character set only if the text asks for it. -/
structure AskedIn (cs : List Char) (f : Flags) : Prop where
  ascii : f.ascii = true → Asks cs 'a'
  unicode : f.unicode = true → Asks cs 'u'

@[simp] theorem Draft.rootFlags_push (d : Draft) (kind : ItemKind) (node : Regex) :
    (d.push kind node).rootFlags = d.rootFlags := by
  unfold Draft.rootFlags Draft.push
  cases d.outer <;> rfl

@[simp] theorem Draft.rootFlags_enter (d : Draft) (opener : Opener) (flags : Flags) :
    (d.enter opener flags).rootFlags = d.rootFlags := by
  unfold Draft.rootFlags Draft.enter
  rw [List.getLastD_cons]

theorem Draft.rootFlags_of_frame {d d' : Draft} (hframe : d'.frame.flags = d.frame.flags)
    (houter : d'.outer = d.outer) : d'.rootFlags = d.rootFlags := by
  unfold Draft.rootFlags
  rw [houter]
  cases d.outer with
  | nil => exact hframe
  | cons f fs => rfl

/-- A draft with the same flags for the whole expression. -/
def Draft.SameFlags (d d' : Draft) : Prop :=
  d'.rootFlags = d.rootFlags

theorem yields_close (d : Draft) : Yields d.SameFlags d.close := by
  unfold Draft.close
  split
  · exact yields_flaw _
  · rename_i parent outer houter
    have hroot : ∀ kind node,
        d.SameFlags (({ d with frame := parent, outer } : Draft).push kind node) := by
      intro kind node
      rw [Draft.SameFlags, Draft.rootFlags_push]
      unfold Draft.rootFlags
      rw [houter, List.getLastD_cons]
    dsimp only
    split
    · exact hroot _ _
    · exact hroot _ _
    · exact hroot _ _
    · exact hroot _ _
    · exact hroot _ _
    · exact hroot _ _
    · split
      · exact hroot _ _
      · exact hroot _ _
      · exact yields_flaw _

theorem yields_nextBranch (d : Draft) : Yields d.SameFlags d.nextBranch := by
  unfold Draft.nextBranch
  split
  · exact yields_flaw _
  · exact Draft.rootFlags_of_frame rfl rfl

/-- What an item leaves of `ts`, with the same flags for the whole expression. -/
def Draft.LeavesSame (d : Draft) (ts : List Token) (r : Draft × List Token) : Prop :=
  Leaves ts r ∧ d.SameFlags r.1

theorem yields_repeatLast (d : Draft) (least : Nat) (most : Option Nat) (ts : List Token) :
    Yields (d.LeavesSame ts) (d.repeatLast least most ts) := by
  have hitem : ∀ (item : Item) (items : List Item) (late : Option Flaw), d.SameFlags
      { d with frame := { d.frame with items := item :: items }, late } :=
    fun _ _ _ => Draft.rootFlags_of_frame rfl rfl
  unfold Draft.repeatLast
  split
  · exact yields_flaw _
  · refine yields_guard (yields_flaw _) fun _ => ?_
    refine yields_guard (yields_flaw _) fun _ => ?_
    refine (yields_take? '?' ts).bind fun lazy hlazy => ?_
    cases lazy with
    | some rest =>
      rw [hlazy rest rfl]
      exact ⟨List.suffix_cons _ rest, hitem _ _ _⟩
    | none =>
      refine (yields_take? '+' ts).bind fun possessive hpossessive => ?_
      cases possessive with
      | some rest =>
        rw [hpossessive rest rfl]
        exact ⟨List.suffix_cons _ rest, hitem _ _ _⟩
      | none => exact ⟨List.suffix_refl ts, hitem _ _ _⟩

theorem sameFlags_capture (d : Draft) : d.SameFlags d.capture :=
  Draft.rootFlags_enter _ _ _

theorem yields_captureNamed (d : Draft) (name : String) :
    Yields d.SameFlags (d.captureNamed name) := by
  unfold Draft.captureNamed
  split
  · exact yields_flaw _
  · exact sameFlags_capture d

theorem yields_checkBehind (d : Draft) (index : Nat) :
    Yields (fun _ => True) (d.checkBehind index) := by
  unfold Draft.checkBehind
  split
  · trivial
  split
  · exact yields_flaw _
  split
  · exact yields_flaw _
  · trivial

theorem yields_refer (d : Draft) (index : Nat) : Yields d.SameFlags (d.refer index) := by
  unfold Draft.refer
  refine yields_guard (yields_flaw _) fun _ => ?_
  refine (yields_checkBehind d index).bind fun _ _ => ?_
  exact Draft.rootFlags_push _ _ _

theorem yields_enterCondition (d : Draft) (name : List Char) :
    Yields d.SameFlags (d.enterCondition name) := by
  unfold Draft.enterCondition
  split
  · split
    · exact yields_flaw _
    · refine (yields_checkBehind d _).bind fun _ _ => ?_
      exact Draft.rootFlags_enter _ _ _
  · split
    · refine (yields_checkBehind d _).bind fun _ _ => ?_
      exact Draft.rootFlags_enter _ _ _
    · exact yields_flaw _

theorem yields_skipComment (ts : List Token) :
    Yields (fun rest => rest <:+ ts) (skipComment ts) := by
  induction ts with
  | nil => exact yields_flaw _
  | cons t ts ih =>
    rw [skipComment]
    refine (yields_afterFirst _).bind fun _ _ => ?_
    split
    · exact List.suffix_cons t ts
    · exact ih.mono fun rest hrest => hrest.trans (List.suffix_cons t ts)

theorem yields_skipLine (ts : List Token) : Yields (fun rest => rest <:+ ts) (skipLine ts) := by
  induction ts with
  | nil => exact List.suffix_refl []
  | cons t ts ih =>
    rw [skipLine]
    refine (yields_afterFirst _).bind fun _ _ => ?_
    split
    · exact List.suffix_cons t ts
    · exact ih.mono fun rest hrest => hrest.trans (List.suffix_cons t ts)

theorem yields_readNamed (d : Draft) (ts : List Token) :
    Yields (d.LeavesSame ts) (d.readNamed ts) := by
  unfold Draft.readNamed
  refine (yields_take? '<' ts).bind fun opened hopened => ?_
  cases opened with
  | some ts' =>
    rw [hopened ts' rfl]
    refine (yields_takeName '>' ts').bind ?_
    rintro ⟨name, rest⟩ hrest
    refine yields_guard (yields_flaw _) fun _ => ?_
    refine (yields_captureNamed d _).bind fun d' hd' => ?_
    exact ⟨hrest.cons _, hd'⟩
  | none =>
    refine (yields_take? '=' ts).bind fun referred hreferred => ?_
    cases referred with
    | some ts' =>
      rw [hreferred ts' rfl]
      refine (yields_takeName ')' ts').bind ?_
      rintro ⟨name, rest⟩ hrest
      refine yields_guard (yields_flaw _) fun _ => ?_
      split
      · exact yields_flaw _
      · refine (yields_refer d _).bind fun d' hd' => ?_
        exact ⟨hrest.cons _, hd'⟩
    | none => exact yields_flaw _

/-! ## Steps -/

theorem addGlobal_cons (f : Flags) (c : Char) (on : List Char) :
    f.addGlobal (c :: on) = (f.put true c).addGlobal on := rfl

theorem put_true_spec (f : Flags) (c : Char) :
    ((f.put true c).ascii = true → f.ascii = true ∨ c = 'a') ∧
      ((f.put true c).unicode = true → f.unicode = true ∨ c = 'u') := by
  unfold Flags.put
  split
  all_goals first
    | exact ⟨fun h => .inl h, fun h => .inl h⟩
    | exact ⟨fun _ => .inr rfl, fun h => .inl h⟩
    | exact ⟨fun h => .inl h, fun _ => .inr rfl⟩

/-- Flags that are turned on for the whole expression are those of the list. -/
theorem addGlobal_spec (on : List Char) (f : Flags) :
    ((f.addGlobal on).ascii = true → f.ascii = true ∨ 'a' ∈ on) ∧
      ((f.addGlobal on).unicode = true → f.unicode = true ∨ 'u' ∈ on) := by
  induction on generalizing f with
  | nil => exact ⟨.inl, .inl⟩
  | cons c on ih =>
    rw [addGlobal_cons]
    obtain ⟨hascii, hunicode⟩ := ih (f.put true c)
    obtain ⟨hputAscii, hputUnicode⟩ := put_true_spec f c
    constructor
    · intro h
      obtain h | h := hascii h
      · exact (hputAscii h).imp_right fun hc => List.mem_cons.mpr (.inl hc.symm)
      · exact .inr (List.mem_cons_of_mem c h)
    · intro h
      obtain h | h := hunicode h
      · exact (hputUnicode h).imp_right fun hc => List.mem_cons.mpr (.inl hc.symm)
      · exact .inr (List.mem_cons_of_mem c h)

theorem AskedIn.addGlobal {cs on : List Char} {f : Flags} (hf : AskedIn cs f) (hon : AreFlags on)
    (hcs : '(' :: '?' :: (on ++ [')']) <:+: cs) : AskedIn cs (f.addGlobal on) where
  ascii h := ((addGlobal_spec on f).1 h).elim hf.ascii fun hmem => ⟨on, hon, hmem, hcs⟩
  unicode h := ((addGlobal_spec on f).2 h).elim hf.unicode fun hmem => ⟨on, hon, hmem, hcs⟩

/-- What a step leaves of `ts`: flags for the whole expression are turned on only if `cs` asks. -/
def Draft.LeavesAsked (cs : List Char) (d : Draft) (ts : List Token) (r : Draft × List Token) :
    Prop :=
  Leaves ts r ∧ (AskedIn cs d.rootFlags → AskedIn cs r.1.rootFlags)

theorem Draft.LeavesSame.asked {d : Draft} {ts : List Token} {r : Draft × List Token}
    (h : d.LeavesSame ts r) (cs : List Char) : d.LeavesAsked cs ts r :=
  ⟨h.1, fun hd => (show r.1.rootFlags = d.rootFlags from h.2) ▸ hd⟩

theorem Draft.LeavesAsked.cons {cs : List Char} {d : Draft} {ts : List Token}
    {r : Draft × List Token} (h : d.LeavesAsked cs ts r) (t : Token) :
    d.LeavesAsked cs (t :: ts) r :=
  ⟨h.1.cons t, h.2⟩

theorem leavesSame_enter (d : Draft) (opener : Opener) (flags : Flags) (ts : List Token) :
    d.LeavesSame ts (d.enter opener flags, ts) :=
  ⟨List.suffix_refl ts, Draft.rootFlags_enter d opener flags⟩

theorem leavesSame_enterBehind (d : Draft) (negated : Bool) (ts : List Token) :
    d.LeavesSame ts (d.enterBehind negated, ts) :=
  ⟨List.suffix_refl ts, Draft.rootFlags_enter _ _ _⟩

/-- A flag list for the whole expression stands where no group is open. -/
theorem leavesAsked_addGlobal {cs : List Char} {d : Draft} (houter : d.outer.isEmpty = true)
    {c : Char} {more : List Char} {ts rest : List Token} (hflags : AreFlags (c :: more))
    (hts : ts = more.map .char ++ .char ')' :: rest)
    (hcs : '(' :: '?' :: c :: textOf ts <:+ cs) :
    d.LeavesAsked cs (.char c :: ts)
      ({ d with frame := { d.frame with flags := d.frame.flags.addGlobal (c :: more) } },
        rest) := by
  have houter' : d.outer = [] := List.isEmpty_iff.mp houter
  have hwithin : '(' :: '?' :: (c :: more ++ [')']) <:+: cs := by
    rw [hts, textOf_map_char, textOf_cons] at hcs
    exact isInfix_of_append_suffix ('(' :: '?' :: c :: more) [')'] (textOf rest) hcs
  constructor
  · rw [hts]
    refine Leaves.cons (r := ((), rest)) ?_ _
    exact (List.suffix_cons _ rest).trans (List.suffix_append _ _)
  · unfold Draft.rootFlags
    dsimp only
    rw [houter']
    exact fun hd => hd.addGlobal hflags hwithin

theorem yields_readExtension {cs : List Char} (d : Draft) {ts : List Token}
    (hts : '(' :: '?' :: textOf ts <:+ cs) :
    Yields (d.LeavesAsked cs ts) (d.readExtension ts) := by
  unfold Draft.readExtension
  split
  · rename_i c ts
    refine (yields_afterFirst _).bind fun _ _ => ?_
    dsimp only
    -- One case for each character that may follow `(?`; only a flag list reaches the root frame.
    split
    · exact (yields_readNamed d ts).mono fun r hr => (hr.asked cs).cons _
    · exact ((leavesSame_enter d _ _ ts).asked cs).cons _
    · refine (yields_skipComment ts).bind fun rest hrest => ?_
      exact ⟨Leaves.cons (r := (d, rest)) hrest _, id⟩
    · exact ((leavesSame_enter d _ _ ts).asked cs).cons _
    · exact ((leavesSame_enter d _ _ ts).asked cs).cons _
    · -- A lookbehind: a second mark has to follow.
      refine (yields_take? '=' ts).bind fun equal hequal => ?_
      cases equal with
      | some rest =>
        rw [hequal rest rfl]
        exact (((leavesSame_enterBehind d _ rest).asked cs).cons _).cons _
      | none =>
        refine (yields_take? '!' ts).bind fun mark hmark => ?_
        cases mark with
        | some rest =>
          rw [hmark rest rfl]
          exact (((leavesSame_enterBehind d _ rest).asked cs).cons _).cons _
        | none => exact yields_flaw _
    · refine (yields_takeName ')' ts).bind ?_
      rintro ⟨name, rest⟩ hrest
      refine (yields_enterCondition d name).bind fun d' hd' => ?_
      exact (Draft.LeavesSame.asked (r := (d', rest)) ⟨hrest, hd'⟩ cs).cons _
    · exact ((leavesSame_enter d _ _ ts).asked cs).cons _
    · split
      · rename_i hc
        refine (yields_readFlags c ts).bind ?_
        rintro ⟨change, rest⟩ ⟨hrest, hwhole⟩
        dsimp only at hrest hwhole ⊢
        split
        · split
          · rename_i hempty
            obtain ⟨hne, more, hmore, rfl, hts'⟩ := hwhole _ rfl
            simp only [Bool.and_eq_true] at hempty
            have hflags : AreFlags (c :: more) :=
              List.forall_mem_cons.mpr ⟨hc.resolve_left hne, hmore⟩
            exact leavesAsked_addGlobal hempty.1.1 hflags hts' hts
          · exact yields_flaw _
        · exact (Draft.LeavesSame.asked (r := (d.enter _ _, rest))
            ⟨hrest, Draft.rootFlags_enter d _ _⟩ cs).cons _
      · exact yields_flaw _
  · exact yields_flaw _

theorem yields_readReference (d : Draft) (c : Char) (ts : List Token) :
    Yields (d.LeavesSame ts) (d.readReference c ts) := by
  unfold Draft.readReference
  refine (yields_takeWhile_leaves _ 1 ts).bind ?_
  rintro ⟨more, rest⟩ hrest
  refine yields_either (Q := Leaves rest) (fun _ => yields_takeWhile_leaves _ 1 rest)
    (fun _ => List.suffix_refl rest) ?_
  rintro ⟨third, rest'⟩ hrest'
  dsimp only
  split
  · split
    · refine (yields_refer d _).bind fun d' hd' => ?_
      exact ⟨hrest, hd'⟩
    · exact yields_flaw _
  · split
    · exact ⟨List.IsSuffix.trans hrest' hrest, Draft.rootFlags_push _ _ _⟩
    · exact yields_flaw _

theorem yields_readEscape (d : Draft) (c : Char) (ts : List Token) :
    Yields (d.LeavesSame ts) (d.readEscape c ts) := by
  have hpush : ∀ (kind : ItemKind) (node : Regex), d.LeavesSame ts (d.push kind node, ts) :=
    fun _ _ => ⟨List.suffix_refl ts, Draft.rootFlags_push _ _ _⟩
  unfold Draft.readEscape
  dsimp only
  split
  · exact hpush _ _
  split
  · exact hpush _ _
  split
  · exact hpush _ _
  split
  · refine (yields_takeWhile_leaves _ 2 ts).bind ?_
    rintro ⟨cs, rest⟩ hrest
    exact ⟨hrest, Draft.rootFlags_push _ _ _⟩
  split
  · exact yields_readReference d c ts
  · refine (yields_readCode c ts).bind ?_
    rintro ⟨n, rest⟩ hrest
    exact ⟨hrest, Draft.rootFlags_push _ _ _⟩

theorem yields_readChar {cs : List Char} (hmodest : IsModest cs) (d : Draft) {c : Char}
    {ts : List Token} (hts : c :: textOf ts <:+ cs) :
    Yields (d.LeavesAsked cs ts) (d.readChar c ts) := by
  have hpush : ∀ (kind : ItemKind) (node : Regex),
      d.LeavesAsked cs ts (d.push kind node, ts) := fun _ _ =>
    Draft.LeavesSame.asked (r := (d.push _ _, ts))
      ⟨List.suffix_refl ts, Draft.rootFlags_push _ _ _⟩ cs
  have hrepeat : ∀ (least : Nat) (most : Option Nat) {rest : List Token}, rest <:+ ts →
      Yields (d.LeavesAsked cs ts) (d.repeatLast least most rest) := fun least most rest hrest =>
    (yields_repeatLast d least most rest).mono fun r hr =>
      Draft.LeavesSame.asked ⟨List.IsSuffix.trans hr.1 hrest, hr.2⟩ cs
  unfold Draft.readChar
  dsimp only
  split
  · exact ⟨List.suffix_refl ts, id⟩
  split
  · refine (yields_skipLine ts).bind fun rest hrest => ?_
    exact ⟨hrest, id⟩
  split
  · refine (yields_nextBranch d).bind fun d' hd' => ?_
    exact Draft.LeavesSame.asked (r := (d', ts)) ⟨List.suffix_refl ts, hd'⟩ cs
  · refine (yields_close d).bind fun d' hd' => ?_
    exact Draft.LeavesSame.asked (r := (d', ts)) ⟨List.suffix_refl ts, hd'⟩ cs
  · refine (yields_readSet _ _ ts).bind ?_
    rintro ⟨test, rest⟩ hrest
    exact Draft.LeavesSame.asked (r := (d.pushChar test, rest))
      ⟨hrest, Draft.rootFlags_push _ _ _⟩ cs
  · exact hrepeat _ _ (List.suffix_refl ts)
  · exact hrepeat _ _ (List.suffix_refl ts)
  · exact hrepeat _ _ (List.suffix_refl ts)
  · refine (yields_readBounds hmodest hts).bind fun bounds hbounds => ?_
    split
    · exact hrepeat _ _ (hbounds _ _ _ rfl)
    · exact hpush _ _
  · exact hpush _ _
  · exact hpush _ _
  · exact hpush _ _
  · refine (yields_take? '?' ts).bind fun mark hmark => ?_
    cases mark with
    | some rest =>
      rw [hmark rest rfl] at hts ⊢
      exact (yields_readExtension d hts).mono fun r hr => hr.cons _
    | none =>
      exact Draft.LeavesSame.asked (r := (d.capture, ts))
        ⟨List.suffix_refl ts, sameFlags_capture d⟩ cs
  · exact hpush _ _

/-- **A step on a modest text** is refused for a flaw only; it reads on in the text, and turns flags
for the whole expression on only if the text asks for them. -/
theorem yields_step {cs : List Char} (hmodest : IsModest cs) (d : Draft) {t : Token}
    {ts : List Token} (hts : textOf (t :: ts) <:+ cs) :
    Yields (d.LeavesAsked cs ts) (d.step t ts) := by
  unfold Draft.step
  refine (yields_afterFirst _).bind fun _ _ => ?_
  cases t with
  | char c => exact yields_readChar hmodest d hts
  | escape c => exact (yields_readEscape d c ts).mono fun r hr => hr.asked cs
  | danglingBackslash => exact yields_flaw _

/-! ## The whole expression -/

theorem yields_finish {cs : List Char} (hmodest : IsModest cs) {d : Draft}
    (hd : AskedIn cs d.rootFlags) (balanced : Bool) :
    Yields (fun _ => True) (d.finish balanced) := by
  unfold Draft.finish
  split
  · exact yields_flaw _
  split
  · rename_i houter hboth
    have houter' : d.outer = [] := by
      simpa only [Bool.not_eq_true', Bool.not_eq_false, List.isEmpty_iff] using houter
    have hroot : d.rootFlags = d.frame.flags := by
      unfold Draft.rootFlags
      rw [houter']
      rfl
    rw [hroot] at hd
    obtain ⟨hascii, hunicode⟩ := Bool.and_eq_true_iff.mp hboth
    exact absurd ⟨hd.ascii hascii, hd.unicode hunicode⟩ hmodest.charset
  split
  · exact yields_flaw _
  split
  · exact yields_flaw _
  split
  · exact yields_flaw _
  · trivial

/-- **Reading a modest text** ends with an expression or with a flaw. -/
theorem yields_read {cs : List Char} (hmodest : IsModest cs) (fuel : Nat) (d : Draft)
    (ts : List Token) (hd : AskedIn cs d.rootFlags) (hts : textOf ts <:+ cs) :
    Yields (fun _ => True) (d.read fuel ts) := by
  induction fuel generalizing d ts with
  | zero =>
    rw [Draft.read]
    · exact yields_finish hmodest hd true
    · exact fun _ _ _ h => by cases h
  | succ fuel ih =>
    cases ts with
    | nil => exact yields_finish hmodest hd true
    | cons t ts =>
      rw [Draft.read]
      split
      · exact yields_finish hmodest hd false
      · have hstep := yields_step hmodest d hts
        split
        · rename_i d' rest he
          rw [he] at hstep
          have hrest : textOf rest <:+ textOf (t :: ts) :=
            textOf_suffix (List.IsSuffix.trans hstep.1 (List.suffix_cons t ts))
          exact ih d' rest (hstep.2 hd) (hrest.trans hts)
        · rename_i e he
          rw [he] at hstep
          exact hstep

/-- **A modest text is an expression or has a flaw.** -/
theorem yields_parse {source : String} (h : IsModest source.toList) {flags : Flags}
    (hascii : flags.ascii = false) (hunicode : flags.unicode = false) :
    Yields (fun _ => True) (parse flags source) := by
  unfold parse
  dsimp only
  split
  · exact yields_flaw _
  · refine yields_read h _ _ _ ⟨fun ha => ?_, fun hu => ?_⟩ ?_
    · exact absurd (ha.symm.trans hascii) (by decide)
    · exact absurd (hu.symm.trans hunicode) (by decide)
    · exact ⟨[], textOf_tokenize source.toList⟩

end CiteSieve.Regex
