import CiteSieve.Proofs.Pasted.Enclosed
import CiteSieve.Proofs.Pasted.Layout

/-!
# Spaces around parentheses

An `AND` is found beside a parenthesis with blanks between them or without; a `NOT` is found only
with a blank behind it, and one that touches its parenthesis becomes part of a term. So deleting
blanks around parentheses leaves the reading of a query alone as long as none of them is the last
one behind a `NOT`.

* `quiet_body`: no `AND` stands in a body, so the groups are the items of a chain.
* `readTerms_body`, `parseGroup_squeezed`: how a body and a group are read.
* `parse?_text`: how a query is read, with blanks at its parentheses or without.
* **`parse?_tightens`**: when deleting blanks changes the reading.
-/

namespace CiteSieve.Pasted

namespace Layout

/-! ## Plain characters in parentheses -/

theorem isPlain_of_isBlank {c : Char} (h : Text.isBlank c = true) : isPlain c = true := by
  have hplain := Text.eq_false_of_isBlank (p := fun c => !isPlain c) (by decide +kernel) h
  simpa using hplain

theorem balanced_of_isPlain {cs : List Char} (h : ∀ c ∈ cs, isPlain c = true) :
    Balanced 0 none cs :=
  (closesAtEnd_close_iff cs 0 none).mp (closesAtEnd_plain 1 [')'] h)

theorem isEnclosed_of_isPlain {cs : List Char} (h : ∀ c ∈ cs, isPlain c = true) :
    isEnclosed ('(' :: (cs ++ [')'])) = true :=
  (isEnclosed_iff _).mpr ⟨cs, rfl, balanced_of_isPlain h⟩

/-- A reader comes out again. -/
theorem behind_parenthesized {cs : List Char} (h : ∀ c ∈ cs, isPlain c = true) :
    ({} : Reading).behind ('(' :: (cs ++ [')'])) = {} := by
  rw [Reading.behind_cons, Reading.behind_append,
    show Reading.next {} '(' = ⟨⟨1, none⟩, false⟩ from rfl, Reading.behind_plain h]
  rfl

/-- Words that `OR` joins, and the blanks between them. -/
theorem isPlain_chainChars {w : List Char} {js : List (Joint (List Char))}
    (h : Chained "OR".toList w js) (hwords : ∀ x ∈ w :: js.map Joint.item, IsQueryWord x) :
    ∀ c ∈ chainChars w js, isPlain c = true := by
  induction h with
  | nil w => exact (hwords w List.mem_cons_self).isPlain
  | @cons w j js letters before behind _ _ _ ih =>
    obtain ⟨hw, hjs⟩ := List.forall_mem_cons.mp hwords
    have hletters := isPlain_of_upperChars (.inr rfl) letters
    rw [chainChars]
    simp only [List.forall_mem_append]
    exact ⟨hw.isPlain, fun c hc => isPlain_of_isBlank (before c hc), fun c hc => (hletters c hc).1,
      fun c hc => isPlain_of_isBlank (behind c hc), ih hjs⟩

/-! ## Bodies -/

/-- No `AND` stands among words that `OR` joins. -/
theorem quiet_chainChars {w : List Char} {js : List (Joint (List Char))}
    (h : Chained "OR".toList w js)
    (hspaces : ∀ j ∈ js, (∀ c ∈ j.before, c = ' ') ∧ ∀ c ∈ j.behind, c = ' ')
    (hwords : ∀ x ∈ w :: js.map Joint.item, IsQueryWord x) {rest : List Char}
    (hrest : ∀ c ∈ rest.head?, IsMark c) : Quiet "AND".toList (chainChars w js) rest := by
  have hand : "AND".toList = "AND".toList ∨ "AND".toList = "OR".toList := .inl rfl
  induction h with
  | nil w => exact (hwords w List.mem_cons_self).quiet hand hrest
  | @cons w j js letters _ _ left right _ ih =>
    obtain ⟨hw, hjs⟩ := List.forall_mem_cons.mp hwords
    obtain ⟨⟨hbefore, hbehind⟩, hspaces⟩ := List.forall_mem_cons.mp hspaces
    -- Words have no parentheses, so there are spaces on both sides of the operator.
    have hleft := left.resolve_right hw.getLast?_ne
    have hright := right.resolve_right (hjs _ List.mem_cons_self).head?_ne
    have hplain := isPlain_of_upperChars (.inr rfl) letters
    have hletters : Text.upperChars j.letters ≠ "AND".toList := by
      rw [letters]
      decide
    refine (hw.quiet hand ?left).append ((quiet_marks hand (isMark_of_spaces hbefore)).append
      ((quiet_word hand hplain hletters ?right).append
        ((quiet_marks hand (isMark_of_spaces hbehind)).append (ih hspaces hjs))))
    case left =>
      rw [List.append_assoc]
      exact isMark_head? hleft hbefore _
    case right =>
      rw [List.append_assoc]
      exact isMark_head? hright hbehind _

theorem Body.chars_list (opening first closing : List Char) (others : List (Joint (List Char))) :
    (list opening first others closing).chars =
      '(' :: (opening ++ (chainChars first others ++ closing) ++ [')']) := by
  simp only [chars, List.append_assoc]

theorem isPlain_inside {opening first closing : List Char} {others : List (Joint (List Char))}
    (h : (Body.list opening first others closing).IsGrammatical) :
    ∀ c ∈ opening ++ (chainChars first others ++ closing), isPlain c = true := by
  cases h with
  | list hopening hclosing hwords hchained =>
    simp only [List.forall_mem_append]
    exact ⟨fun c hc => isPlain_of_isBlank (hopening c hc), isPlain_chainChars hchained hwords,
      fun c hc => isPlain_of_isBlank (hclosing c hc)⟩

section Body

variable {body : Body} (h : body.IsGrammatical)

include h

/-- **No `AND` stands in a body.** -/
theorem quiet_body {rest : List Char}
    (hrest : (∀ c ∈ rest.head?, IsMark c) ∨ body.squeezed.chars.getLast? = some ')') :
    Quiet "AND".toList body.squeezed.chars rest := by
  have hand : "AND".toList = "AND".toList ∨ "AND".toList = "OR".toList := .inl rfl
  cases h with
  | word h => exact h.quiet hand (hrest.resolve_right h.getLast?_ne)
  | @list opening first closing others hopening hclosing hwords hchained =>
    have hend : ∀ c ∈ Text.squeeze false closing ++ [')'], IsMark c :=
      List.forall_mem_append.mpr
        ⟨isMark_of_spaces (Text.squeeze_blanks hclosing), by simp [IsMark]⟩
    have hchain : Quiet "AND".toList
        (chainChars (Text.squeeze false first) (others.map Joint.squeezed))
        ((Text.squeeze false closing ++ [')']) ++ rest) := by
      refine quiet_chainChars (hchained.squeezed fun x hx => (hwords x hx).isPacked)
        hchained.spaces_squeezed (by rwa [map_item_squeezed hwords]) ?_
      rw [Text.head?_append_of_ne_nil (by simp)]
      exact fun c hc => hend c (List.mem_of_mem_head? hc)
    have hstart : ∀ c ∈ '(' :: Text.squeeze false opening, IsMark c :=
      List.forall_mem_cons.mpr
        ⟨by simp [IsMark], isMark_of_spaces (Text.squeeze_blanks hopening)⟩
    exact (quiet_marks hand hstart).append (hchain.append (quiet_marks hand hend))

theorem behind_body : ({} : Reading).behind body.squeezed.chars = {} := by
  have hsqueezed := h.squeezed
  cases h with
  | word h => exact Reading.behind_of_isPlain h.isPlain
  | list =>
    rw [Body.squeezed, Body.chars_list]
    exact behind_parenthesized (isPlain_inside hsqueezed)

theorem afterNot?_body : afterNot? body.squeezed.chars = none := by
  cases h with
  | word h =>
    have hterm := afterNot?_term h.isTerm
    rwa [h.termChars_eq] at hterm
  | list =>
    refine afterNot?_of_head fun c hc => ?_
    obtain rfl := Option.some.inj hc
    decide

/-- Quotes are looked for around each word. -/
theorem map_stripQuotes_words :
    (body.words.map stripQuotes).filter (· ≠ []) = body.words := by
  have hwords : ∀ w ∈ body.words, IsQueryWord w := by
    cases h with
    | word h => exact List.forall_mem_singleton.mpr h
    | list _ _ hwords _ => exact hwords
  have hstrip : body.words.map stripQuotes = body.words := by
    refine (List.map_congr_left fun w hw => ?_).trans (List.map_id _)
    have hstrip := stripQuotes_termChars (hwords w hw).isTerm
    rwa [(hwords w hw).termChars_eq] at hstrip
  rw [hstrip]
  exact List.filter_eq_self.mpr fun w hw => decide_eq_true (hwords w hw).ne_nil

end Body

theorem isItem_word {w : List Char} (h : IsQueryWord w) : IsItem "OR".toList w where
  packed := h.isPacked
  outside := Reading.behind_of_isPlain h.isPlain
  silent := fun last _ hend => h.quiet (.inr rfl) (hend.resolve_right h.getLast?_ne) {} last

/-- The parts of a body are its words. -/
theorem splitTopLevel_body {body : Body} (h : body.IsGrammatical) :
    splitTopLevel (unwrap body.squeezed.chars) "OR".toList = body.words := by
  have hsqueezed := h.squeezed
  cases h with
  | @word cs h =>
    have hread := isEnclosed_term h.isTerm
    rw [h.termChars_eq] at hread
    rw [Body.squeezed, Body.chars, unwrap, hread, if_neg Bool.false_ne_true]
    exact splitTopLevel_chain (.inr rfl) (.nil cs) (fun _ h => absurd h List.not_mem_nil)
      (List.forall_mem_singleton.mpr (isItem_word h))
  | @list opening first closing others _ _ hwords hchained =>
    have hinside := isPlain_inside hsqueezed
    have hspaces := hchained.spaces_squeezed
    cases hsqueezed with
    | list hopening' hclosing' hwords' hchained' =>
      have hpacked := isPacked_chainChars fun x hx => (hwords' x hx).isPacked
      rw [Body.squeezed, Body.chars_list, unwrap, isEnclosed_of_isPlain hinside, if_pos rfl,
        List.tail_cons, List.dropLast_concat,
        Text.trimChars_padded hopening' hclosing' hpacked.trimmed,
        splitTopLevel_chain (.inr rfl) hchained' hspaces fun x hx => isItem_word (hwords' x hx)]
      exact map_item_squeezed hwords

/-- **A body is read as its words.** -/
theorem readTerms_body {body : Body} (h : body.IsGrammatical) :
    readTerms body.squeezed.chars = body.words := by
  unfold readTerms
  rw [splitTopLevel_body h, map_stripQuotes_words h]

/-! ## Groups -/

theorem Group.read_ne_nil (g : Group) : g.read.2 ≠ [] := by
  have hwords : ∀ body : Body, body.words ≠ [] := fun body => by
    cases body <;> exact List.cons_ne_nil _ _
  cases g with
  | plain body => exact hwords body
  | negated letters gap body =>
    cases gap with
    | nil => exact List.cons_ne_nil _ _
    | cons => exact hwords body

/-- No `OR` stands in what a `NOT` and its parentheses make. -/
theorem silent_glued {letters cs : List Char} (hletters : Text.upperChars letters = "NOT".toList)
    (hcs : ∀ c ∈ cs, isPlain c = true) :
    Silent "OR".toList {} none (letters ++ '(' :: (cs ++ [')'])) [] := by
  have hor : "OR".toList = "AND".toList ∨ "OR".toList = "OR".toList := .inr rfl
  have hplain := isPlain_of_upperChars_not hletters
  have hquiet : Quiet "OR".toList letters ('(' :: (cs ++ [')']) ++ []) := by
    refine quiet_word hor hplain (by rw [hletters]; decide) fun c hc => ?_
    obtain rfl := Option.some.inj hc
    exact .inr (.inl rfl)
  refine silent_append (hquiet {} none) ?_
  rw [Reading.behind_of_isPlain fun c hc => (hplain c hc).1]
  exact silent_parenthesized hor (fun hc => (isPlain_iff.mp (hcs _ hc)).2.2.2 rfl)
    (balanced_of_isPlain hcs).opened _ []

/-- **A `NOT` that touches its parenthesis** is part of a term. -/
theorem readTerms_glued {letters cs : List Char} (hletters : Text.upperChars letters = "NOT".toList)
    (hcs : ∀ c ∈ cs, isPlain c = true) :
    readTerms (letters ++ '(' :: (cs ++ [')'])) = [letters ++ '(' :: (cs ++ [')'])] := by
  have hsilent := silent_glued hletters hcs
  have hpacked : Text.IsPacked (letters ++ '(' :: (cs ++ [')'])) :=
    (isPacked_not hletters).append isPacked_closing ('(' :: cs)
  have hhead : ∀ c ∈ (letters ++ '(' :: (cs ++ [')'])).head?, c ∈ letters := by
    rw [Text.head?_append_of_ne_nil (isPacked_not hletters).ne_nil]
    exact fun c hc => List.mem_of_mem_head? hc
  have hlast : (letters ++ '(' :: (cs ++ [')'])).getLast? = some ')' := by
    rw [← List.cons_append, ← List.append_assoc, List.getLast?_concat]
  generalize letters ++ '(' :: (cs ++ [')']) = text at hsilent hpacked hhead hlast ⊢
  have hunwrap : isEnclosed text = false := by
    refine isEnclosed_of_head? fun hc => ?_
    exact absurd (isPlain_of_upperChars_not hletters _ (hhead _ hc)).1 (by decide)
  have hstrip : stripQuotes text = text := by
    refine stripQuotes_eq_self hpacked.trimmed (fun c hc => ?_) fun c hc => ?_
    · exact isTermQuote_of_upperChars_not hletters c (hhead c hc)
    · obtain rfl := Option.some.inj (hlast.symm.trans hc)
      decide
  unfold readTerms unwrap
  rw [hunwrap, if_neg Bool.false_ne_true,
    splitTopLevel_of_silent (.inr rfl) hsilent hpacked.ne_nil hpacked.trimmed, List.map_singleton,
    hstrip]
  exact List.filter_eq_self.mpr (List.forall_mem_singleton.mpr (decide_eq_true hpacked.ne_nil))

/-- A space or a parenthesis stands behind a `NOT`. -/
theorem isMark_behind_not {gap : List Char} {body : Body} (hgap : ∀ c ∈ gap, Text.isBlank c = true)
    (hright : gap ≠ [] ∨ body.chars.head? = some '(') (h : body.IsGrammatical) {rest : List Char} :
    ∀ c ∈ ((Text.squeeze false gap ++ body.squeezed.chars) ++ rest).head?, IsMark c := by
  have hbody := h.squeezed.isPacked
  rw [List.append_assoc]
  rcases eq_or_ne gap [] with rfl | hne
  · have hhead : body.squeezed.chars.head? = some '(' := by
      rw [← h.squeeze_chars, Text.head?_squeeze h.isPacked.trimmed.head]
      exact hright.resolve_left fun hne => hne rfl
    intro c hc
    rw [Text.squeeze_nil, List.nil_append, Text.head?_append_of_ne_nil hbody.ne_nil, hhead] at hc
    exact .inr (.inl (Option.some.inj hc).symm)
  · exact isMark_head? (mt Text.squeeze_eq_nil_iff.mp hne) (Text.squeeze_blanks hgap) _

section Group

variable {g : Group} (h : g.IsGrammatical)

include h

/-- **A group is an item** of its query. -/
theorem isItem_group : IsItem "AND".toList g.squeezed.chars := by
  have hpacked := h.squeezed.isPacked
  cases h with
  | plain h => exact ⟨hpacked, behind_body h, fun last _ hend => quiet_body h hend {} last⟩
  | @negated letters gap body hletters hgap hright h =>
    have hplain := isPlain_of_upperChars_not hletters
    have hspaces := Text.squeeze_blanks hgap
    have hbody := h.squeezed.isPacked
    refine ⟨hpacked, ?outside, fun last rest hend => ?silent⟩
    case outside =>
      rw [Group.squeezed, Group.chars, Reading.behind_append,
        Reading.behind_of_isPlain fun c hc => (hplain c hc).1, Reading.behind_append,
        behind_eq_of_spaces hspaces, behind_body h]
    case silent =>
      have hword : Quiet "AND".toList letters
          ((Text.squeeze false gap ++ body.squeezed.chars) ++ rest) :=
        quiet_word (.inl rfl) hplain (by rw [hletters]; decide) (isMark_behind_not hgap hright h)
      rw [Group.squeezed, Group.chars, ← List.append_assoc,
        Text.getLast?_append_of_ne_nil _ hbody.ne_nil] at hend
      exact (hword.append ((quiet_marks (.inl rfl) (isMark_of_spaces hspaces)).append
        (quiet_body h hend))) {} last

theorem toList_collapse_chars :
    (Text.collapse (String.ofList g.chars)).toList = g.squeezed.chars := by
  have hnil : ∀ c ∈ ([] : List Char), Text.isBlank c = true := nofun
  have hcollapse := Text.toList_collapse_padded hnil hnil h.isPacked
  rwa [List.nil_append, List.append_nil, h.squeeze_chars] at hcollapse

/-- **A group is read**: without its `NOT` where a blank is behind that. -/
theorem parseGroup_squeezed : parseGroup g.squeezed.chars = g.read := by
  rw [parseGroup_eq, Text.trimChars_eq_self h.squeezed.isPacked.trimmed]
  cases h with
  | plain h =>
    rw [Group.squeezed, Group.chars, afterNot?_body h, readTerms_body h]
    rfl
  | @negated letters gap body hletters hgap hright h =>
    have hbody := h.squeezed.isPacked.trimmed
    cases gap with
    | cons b gap =>
      have hne : Text.squeeze false (b :: gap) ≠ [] := by simp [Text.squeeze_eq_nil_iff]
      have hafter := afterNot?_of_blanks hletters hne (Text.isBlank_of_mem_squeeze hgap) hbody.head
      rw [Group.squeezed, Group.chars, hafter]
      dsimp only
      rw [Text.trimChars_eq_self hbody, readTerms_body h]
      rfl
    | nil =>
      have hread : (Group.negated letters [] body).read =
          (false, [(Group.negated letters [] body).squeezed.chars]) := by
        rw [← toList_collapse_chars (.negated hletters hgap hright h)]
        rfl
      have hinner := h.squeezed
      cases h with
      | word h => exact absurd (hright.resolve_left fun hne => hne rfl) h.head?_ne
      | list =>
        have hinside := isPlain_inside hinner
        rw [hread, Group.squeezed, Group.chars, Text.squeeze_nil, List.nil_append, Body.squeezed,
          Body.chars_list, afterNot?_of_not_blank hletters (by decide)]
        dsimp only
        rw [readTerms_glued hletters hinside]

end Group

/-! ## Queries -/

section Query

variable {q : Layout} (h : q.IsGrammatical)

include h

theorem splitTopLevel_text : splitTopLevel (Text.collapse q.text).toList "AND".toList =
    q.groups.map fun g => g.squeezed.chars := by
  have hchars : q.first.chars :: (q.others.map (Joint.map Group.chars)).map Joint.item =
      q.groups.map Group.chars := by
    simp [groups]
  have hpacked : ∀ x ∈ q.first.chars :: (q.others.map (Joint.map Group.chars)).map Joint.item,
      Text.IsPacked x := by
    rw [hchars]
    exact List.forall_mem_map.mpr fun g hg => (h.groups g hg).isPacked
  have hsqueezed : Text.squeeze false q.first.chars ::
      ((q.others.map (Joint.map Group.chars)).map Joint.squeezed).map Joint.item =
        q.groups.map fun g => g.squeezed.chars := by
    obtain ⟨hfirst, hothers⟩ := List.forall_mem_cons.mp h.groups
    rw [groups, List.map_cons, hfirst.squeeze_chars]
    simp only [List.map_map]
    refine congrArg _ (List.map_congr_left fun j hj => ?_)
    exact (hothers _ (List.mem_map_of_mem hj)).squeeze_chars
  have hitems : ∀ x ∈ q.groups.map fun g => g.squeezed.chars, IsItem "AND".toList x :=
    List.forall_mem_map.mpr fun g hg => isItem_group (h.groups g hg)
  rw [← hsqueezed] at hitems ⊢
  have hcollapse := Text.toList_collapse_padded h.start h.stop (isPacked_chainChars hpacked)
  rw [squeeze_chainChars (.inl rfl) h.chained hpacked] at hcollapse
  rw [text, chars, hcollapse]
  exact splitTopLevel_chain (.inl rfl) (h.chained.squeezed hpacked) h.chained.spaces_squeezed hitems

/-- **How a query is read**: its groups in order, each excluded if a `NOT` stands before it with a
blank behind. -/
theorem parse?_text : parse? q.text = some q.reading := by
  have hblocks : (q.groups.map fun g => g.squeezed.chars).mapIdx groupBlock = q.reading.blocks := by
    refine List.ext_getElem (by simp [reading]) fun i hi _ => ?_
    have hg := h.groups _ (List.getElem_mem (by simpa using hi : i < q.groups.length))
    simp only [reading, List.getElem_mapIdx, List.getElem_map]
    rw [groupBlock, parseGroup_squeezed hg]
  unfold parse?
  rw [splitTopLevel_text h]
  dsimp only
  have hlen : q.reading.blocks.length = q.groups.length := by simp [reading]
  rw [hblocks, hlen]
  refine if_neg fun hall => ?_
  rw [reading, groups, List.map_cons, List.mapIdx_cons] at hall
  have hempty := List.all_eq_true.mp hall _ List.mem_cons_self
  exact q.first.read_ne_nil (by simpa using hempty)

end Query

/-! ## Deleting blanks -/

/-- A reading says what is read of each group, and no more. -/
theorem reading_eq_iff {q q' : Layout} :
    q'.reading = q.reading ↔ q'.groups.map Group.read = q.groups.map Group.read := by
  constructor
  · intro h
    have hread : ∀ q : Layout, q.groups.map Group.read =
        q.reading.blocks.map fun b => (b.exclude, b.terms.map String.toList) := by
      intro q
      refine List.ext_getElem (by simp [reading]) fun i _ _ => ?_
      simp [reading, Function.comp_def]
    rw [hread, hread, h]
  · intro h
    have hlen : q'.groups.length = q.groups.length := by simpa using congrArg List.length h
    rw [reading, reading, h, hlen]

/-- Deleting blanks keeps what is read of a group, unless its `NOT` loses the last one. -/
theorem Group.Tightens.read_eq_iff {g g' : Group} (h : g.Tightens g') :
    g'.read = g.read ↔ g'.isGlued = g.isGlued := by
  cases h with
  | plain body => exact iff_of_true rfl rfl
  | @negated letters gap gap' body h =>
    cases gap <;> cases gap' <;> simp [read, isGlued]

theorem ChainTightens.read_eq_iff {g g' : Group} {js js' : List (Joint Group)}
    (h : ChainTightens g js g' js') :
    (g' :: js'.map Joint.item).map Group.read = (g :: js.map Joint.item).map Group.read ↔
      (g' :: js'.map Joint.item).map Group.isGlued =
        (g :: js.map Joint.item).map Group.isGlued := by
  induction h with
  | nil h => simpa using h.read_eq_iff
  | cons h _ _ _ _ ih =>
    simp only [List.map_cons, List.cons.injEq] at ih ⊢
    exact and_congr h.read_eq_iff ih

/-- **Deleting blanks between parentheses and operators** leaves the reading of a query as it is,
just if it leaves a blank behind every `NOT` that has one. -/
theorem parse?_tightens {q q' : Layout} (h : q.IsGrammatical) (ht : q.Tightens q') :
    parse? q.text = some q.reading ∧ parse? q'.text = some q'.reading ∧
      (parse? q'.text = parse? q.text ↔
        q'.groups.map Group.isGlued = q.groups.map Group.isGlued) := by
  have hq := parse?_text h
  have hq' := parse?_text (h.of_tightens ht)
  refine ⟨hq, hq', ?_⟩
  rw [hq, hq', Option.some_inj, reading_eq_iff]
  exact ht.chain.read_eq_iff

/-- Lists and a word, with `NOT` before a list, before the word and as a word; the blanks between
parentheses and operators are given. -/
def mixedLayout (behindFirst beforeSecond behindSecond behindNot behindThird : List Char) :
    Layout where
  start := [' ']
  first := .plain (.list [' '] ['a'] [⟨[' '], "OR".toList, [' '], ['b']⟩] [])
  others := [
    ⟨behindFirst, "AND".toList, beforeSecond, .plain (.list [] "c1".toList [] [' '])⟩,
    ⟨behindSecond, "and".toList, [' '], .negated "NOT".toList behindNot
      (.list [] ['d'] [⟨[' '], "or".toList, ['\n'], "NOT".toList⟩] [])⟩,
    ⟨behindThird, "AND".toList, [' '], .negated "not".toList [' '] (.word ['x'])⟩]
  stop := []

def looseLayout : Layout :=
  mixedLayout "  ".toList ['\t'] [' '] "  ".toList [' ']

/-- One blank is left behind the `NOT` before the list, and no other. -/
def tightLayout : Layout :=
  mixedLayout [] [] [] [' '] []

theorem isGrammatical_looseLayout : looseLayout.IsGrammatical := by
  decide

theorem tightens_looseLayout : looseLayout.Tightens tightLayout where
  start := rfl
  chain :=
    .cons (.plain _) ⟨by decide, .inl (by decide)⟩ rfl ⟨by decide, .inl (by decide)⟩
      (.cons (.plain _) ⟨by decide, .inl (by decide)⟩ rfl ⟨by decide, .inr rfl⟩
        (.cons (.negated ⟨by decide, .inl (by decide)⟩) ⟨by decide, .inl (by decide)⟩ rfl
          ⟨by decide, .inr rfl⟩ (.nil (.negated ⟨by decide, .inr rfl⟩))))
  stop := rfl

theorem parse?_tightLayout :
    looseLayout.text = " ( a OR b)  AND\t(c1 ) and NOT  (d or\nNOT) AND not x" ∧
      tightLayout.text = " ( a OR b)AND(c1 )and NOT (d or\nNOT)AND not x" ∧
      parse? tightLayout.text = parse? looseLayout.text := by
  obtain ⟨-, -, hsame⟩ := parse?_tightens isGrammatical_looseLayout tightens_looseLayout
  exact ⟨by decide, by decide, hsame.mpr (by decide)⟩

/-- An excluded list behind a word, with the blanks `gap` behind its `NOT`. -/
def negatedLayout (gap : List Char) : Layout where
  start := []
  first := .plain (.word ['a'])
  others := [⟨[' '], "AND".toList, [' '], .negated "NOT".toList gap
    (.list [] ['b'] [⟨[' '], "OR".toList, [' '], ['c']⟩] [])⟩]
  stop := []

/-- Without its blank the `NOT` is part of a term, and nothing is excluded. -/
theorem gluedNot_read_ne :
    (negatedLayout [' ']).IsGrammatical ∧ (negatedLayout [' ']).Tightens (negatedLayout []) ∧
      (negatedLayout [' ']).text = "a AND NOT (b OR c)" ∧
      (negatedLayout []).text = "a AND NOT(b OR c)" ∧
      parse? (negatedLayout []).text ≠ parse? (negatedLayout [' ']).text := by
  refine ⟨by decide, ⟨rfl, ?chain, rfl⟩, by decide, by decide, by decide +kernel⟩
  exact .cons (.plain _) ⟨by decide, .inr rfl⟩ rfl ⟨by decide, .inr rfl⟩
    (.nil (.negated ⟨by decide, .inl (by decide)⟩))

end Layout

end CiteSieve.Pasted
