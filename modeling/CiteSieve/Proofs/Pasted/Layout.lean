import CiteSieve.Proofs.Pasted.Chain
import CiteSieve.Proofs.Pasted.Negation

/-!
# Queries as they are laid out

A query of groups that `AND` joins, with all its blanks: each group is a word or words in
parentheses that `OR` joins, with `NOT` before it or without. Blanks are needed where two words or a
word and an operator would touch; beside a parenthesis they may be missing.

* `Layout.IsGrammatical`: what such a query is.
* `Layout.Tightens`: blanks are deleted between parentheses and operators, and nowhere else.
* `Layout.IsGrammatical.of_tightens`: what is left is such a query.
* `squeeze_chars`: squeezing the text of a group is squeezing its blanks.
-/

namespace CiteSieve.Pasted

/-- Letters, digits and underscores that are neither `AND` nor `OR` in any case. -/
structure IsQueryWord (cs : List Char) : Prop where
  ne_nil : cs ≠ []
  word : ∀ c ∈ cs, Text.isWord c = true
  ne_and : Text.upperChars cs ≠ "AND".toList
  ne_or : Text.upperChars cs ≠ "OR".toList

instance (cs : List Char) : Decidable (IsQueryWord cs) :=
  decidable_of_iff
    (cs ≠ [] ∧ (∀ c ∈ cs, Text.isWord c = true) ∧ Text.upperChars cs ≠ "AND".toList ∧
      Text.upperChars cs ≠ "OR".toList)
    ⟨fun h => ⟨h.1, h.2.1, h.2.2.1, h.2.2.2⟩, fun h => ⟨h.ne_nil, h.word, h.ne_and, h.ne_or⟩⟩

namespace Layout

/-! ## Groups -/

/-- A word, or words in parentheses with the blanks at these. -/
inductive Body where
  | word (cs : List Char)
  | list (opening first : List Char) (others : List (Joint (List Char))) (closing : List Char)

namespace Body

def chars : Body → List Char
  | word cs => cs
  | list opening first others closing =>
    '(' :: (opening ++ (chainChars first others ++ (closing ++ [')'])))

/-- The words. -/
def words : Body → List (List Char)
  | word cs => [cs]
  | list _ first others _ => first :: others.map Joint.item

inductive IsGrammatical : Body → Prop
  | word {cs : List Char} (h : IsQueryWord cs) : IsGrammatical (word cs)
  | list {opening first closing : List Char} {others : List (Joint (List Char))}
      (hopening : ∀ c ∈ opening, Text.isBlank c = true)
      (hclosing : ∀ c ∈ closing, Text.isBlank c = true)
      (hwords : ∀ w ∈ first :: others.map Joint.item, IsQueryWord w)
      (hchained : Chained "OR".toList first others) :
      IsGrammatical (list opening first others closing)

instance : (body : Body) → Decidable body.IsGrammatical
  | word cs => decidable_of_iff (IsQueryWord cs) ⟨.word, fun | .word h => h⟩
  | list opening first others closing =>
    decidable_of_iff
      ((∀ c ∈ opening, Text.isBlank c = true) ∧ (∀ c ∈ closing, Text.isBlank c = true) ∧
        (∀ w ∈ first :: others.map Joint.item, IsQueryWord w) ∧ Chained "OR".toList first others)
      ⟨fun ⟨hopening, hclosing, hwords, hchained⟩ => .list hopening hclosing hwords hchained,
        fun | .list hopening hclosing hwords hchained => ⟨hopening, hclosing, hwords, hchained⟩⟩

/-- Every run of blanks is one space. -/
def squeezed : Body → Body
  | word cs => word cs
  | list opening first others closing =>
    list (Text.squeeze false opening) (Text.squeeze false first) (others.map Joint.squeezed)
      (Text.squeeze false closing)

end Body

/-- A body, or `NOT` in some case with the blanks behind it and a body. -/
inductive Group where
  | plain (body : Body)
  | negated (letters gap : List Char) (body : Body)

namespace Group

def chars : Group → List Char
  | plain body => body.chars
  | negated letters gap body => letters ++ (gap ++ body.chars)

/-- A `NOT` touches its parenthesis. -/
def isGlued : Group → Bool
  | plain _ => false
  | negated _ gap _ => gap.isEmpty

/-- Whether the group is excluded, and its terms. A `NOT` that touches its parenthesis is none: all
that stands there is one term. -/
def read : Group → Bool × List (List Char)
  | plain body => (false, body.words)
  | negated letters gap body =>
    if gap.isEmpty then (false, [(Text.collapse (String.ofList (letters ++ body.chars))).toList])
    else (true, body.words)

inductive IsGrammatical : Group → Prop
  | plain {body : Body} (h : body.IsGrammatical) : IsGrammatical (plain body)
  | negated {letters gap : List Char} {body : Body}
      (hletters : Text.upperChars letters = "NOT".toList)
      (hgap : ∀ c ∈ gap, Text.isBlank c = true)
      (hright : gap ≠ [] ∨ body.chars.head? = some '(') (h : body.IsGrammatical) :
      IsGrammatical (negated letters gap body)

instance : (g : Group) → Decidable g.IsGrammatical
  | plain body => decidable_of_iff body.IsGrammatical ⟨.plain, fun | .plain h => h⟩
  | negated letters gap body =>
    decidable_of_iff
      (Text.upperChars letters = "NOT".toList ∧ (∀ c ∈ gap, Text.isBlank c = true) ∧
        (gap ≠ [] ∨ body.chars.head? = some '(') ∧ body.IsGrammatical)
      ⟨fun ⟨hletters, hgap, hright, h⟩ => .negated hletters hgap hright h,
        fun | .negated hletters hgap hright h => ⟨hletters, hgap, hright, h⟩⟩

def squeezed : Group → Group
  | plain body => plain body.squeezed
  | negated letters gap body => negated letters (Text.squeeze false gap) body.squeezed

end Group

end Layout

/-! ## Queries -/

/-- Groups that `AND` joins, and the blanks at both ends. -/
structure Layout where
  start : List Char
  first : Layout.Group
  others : List (Joint Layout.Group)
  stop : List Char

namespace Layout

def chars (q : Layout) : List Char :=
  q.start ++ (chainChars q.first.chars (q.others.map (Joint.map Group.chars)) ++ q.stop)

def text (q : Layout) : String :=
  String.ofList q.chars

def groups (q : Layout) : List Group :=
  q.first :: q.others.map Joint.item

structure IsGrammatical (q : Layout) : Prop where
  start : ∀ c ∈ q.start, Text.isBlank c = true
  stop : ∀ c ∈ q.stop, Text.isBlank c = true
  groups : ∀ g ∈ q.groups, g.IsGrammatical
  chained : Chained "AND".toList q.first.chars (q.others.map (Joint.map Group.chars))

instance (q : Layout) : Decidable q.IsGrammatical :=
  decidable_of_iff
    ((∀ c ∈ q.start, Text.isBlank c = true) ∧ (∀ c ∈ q.stop, Text.isBlank c = true) ∧
      (∀ g ∈ q.groups, g.IsGrammatical) ∧
      Chained "AND".toList q.first.chars (q.others.map (Joint.map Group.chars)))
    ⟨fun h => ⟨h.1, h.2.1, h.2.2.1, h.2.2.2⟩,
      fun h => ⟨h.start, h.stop, h.groups, h.chained⟩⟩

/-- What is read: a block for each group, and `AND` between them. -/
def reading (q : Layout) : Groups where
  blocks := (q.groups.map Group.read).mapIdx fun i r =>
    { name := s!"Group {i + 1}", terms := r.2.map String.ofList, exclude := r.1 }
  operators := List.replicate (q.groups.length - 1) .and

/-! ## Deleting blanks -/

/-- Of the blanks `gap` those in `gap'` are left; some may be missing if they stand at a
parenthesis. -/
structure Deletes (atParenthesis : Prop) (gap gap' : List Char) : Prop where
  sublist : gap'.Sublist gap
  allowed : atParenthesis ∨ gap' = gap

/-- Blanks between a `NOT` and the parenthesis behind it are deleted, or none. -/
inductive Group.Tightens : Group → Group → Prop
  | plain (body : Body) : Tightens (plain body) (plain body)
  | negated {letters gap gap' : List Char} {body : Body}
      (h : Deletes (body.chars.head? = some '(') gap gap') :
      Tightens (negated letters gap body) (negated letters gap' body)

/-- Blanks between a parenthesis and the `AND` behind or before it are deleted, or none, and so in
the groups. -/
inductive ChainTightens : Group → List (Joint Group) → Group → List (Joint Group) → Prop
  | nil {g g' : Group} (h : g.Tightens g') : ChainTightens g [] g' []
  | cons {g g' : Group} {j j' : Joint Group} {js js' : List (Joint Group)} (h : g.Tightens g')
      (before : Deletes (g.chars.getLast? = some ')') j.before j'.before)
      (letters : j'.letters = j.letters)
      (behind : Deletes (j.item.chars.head? = some '(') j.behind j'.behind)
      (others : ChainTightens j.item js j'.item js') : ChainTightens g (j :: js) g' (j' :: js')

/-- **Deleting blanks between parentheses and operators**, any of them. -/
structure Tightens (q q' : Layout) : Prop where
  start : q'.start = q.start
  chain : ChainTightens q.first q.others q'.first q'.others
  stop : q'.stop = q.stop

end Layout

/-! ## Words -/

namespace IsQueryWord

variable {cs : List Char} (h : IsQueryWord cs)

include h

theorem notBlank : ∀ c ∈ cs, Text.isBlank c = false :=
  fun c hc => Text.isBlank_of_isWord (h.word c hc)

theorem isPlain : ∀ c ∈ cs, Pasted.isPlain c = true := by
  intro c hc
  have hne : ∀ {m : Char}, Text.isWord m = false → c ≠ m := Text.ne_of_isWord (h.word c hc)
  refine isPlain_iff.mpr ⟨?_, hne (by decide), hne (by decide), hne (by decide)⟩
  simp [isStraightQuote, hne (m := '"') (by decide), hne (m := '\'') (by decide)]

theorem isCurlyQuote_eq_false : ∀ c ∈ cs, isCurlyQuote c = false := by
  intro c hc
  refine Bool.eq_false_iff.mpr fun hquote => ?_
  have hmark := (by decide +kernel : ∀ m ∈ "“”‘’".toList, Text.isWord m = false) c
    (List.contains_iff_mem.mp hquote)
  exact Text.ne_of_isWord (h.word c hc) hmark rfl

theorem not_mem_space : ' ' ∉ cs :=
  fun hc => absurd (h.notBlank ' ' hc) (by decide)

theorem isTerm : IsTerm cs where
  tidy := .of_not_isBlank h.ne_nil h.notBlank
  quoted := fun hspace => absurd hspace h.not_mem_space
  bare := fun _ => {
    plain := h.isPlain
    head := fun c hc => h.isCurlyQuote_eq_false c (List.mem_of_mem_head? hc)
    last := fun c hc => h.isCurlyQuote_eq_false c (List.mem_of_getLast? hc)
    ne_and := h.ne_and
    ne_or := h.ne_or }

theorem termChars_eq : termChars cs = cs :=
  if_neg h.not_mem_space

theorem isPacked : Text.IsPacked cs :=
  .of_not_isBlank h.ne_nil h.notBlank

theorem ne_word {word : List Char} (hw : word = "AND".toList ∨ word = "OR".toList) :
    Text.upperChars cs ≠ word := by
  rcases hw with rfl | rfl
  · exact h.ne_and
  · exact h.ne_or

/-- No operator begins in a word. -/
theorem quiet {word rest : List Char} (hw : word = "AND".toList ∨ word = "OR".toList)
    (hrest : ∀ c ∈ rest.head?, IsMark c) : Quiet word cs rest :=
  quiet_word hw (fun c hc => ⟨h.isPlain c hc, fun heq => h.not_mem_space (heq ▸ hc)⟩) (h.ne_word hw)
    hrest

theorem squeeze_eq : Text.squeeze false cs = cs :=
  Text.squeeze_of_not_isBlank h.notBlank false

theorem head?_ne : cs.head? ≠ some '(' :=
  fun hc => (isPlain_iff.mp (h.isPlain _ (List.mem_of_mem_head? hc))).2.1 rfl

theorem getLast?_ne : cs.getLast? ≠ some ')' :=
  fun hc => (isPlain_iff.mp (h.isPlain _ (List.mem_of_getLast? hc))).2.2.1 rfl

end IsQueryWord

namespace Layout

/-! ## Squeezing -/

/-- The words of a list hold no blanks. -/
theorem map_item_squeezed {first : List Char} {others : List (Joint (List Char))}
    (h : ∀ w ∈ first :: others.map Joint.item, IsQueryWord w) :
    Text.squeeze false first :: (others.map Joint.squeezed).map Joint.item =
      first :: others.map Joint.item := by
  obtain ⟨hfirst, hothers⟩ := List.forall_mem_cons.mp h
  rw [hfirst.squeeze_eq, List.map_map]
  refine congrArg _ (List.map_congr_left fun j hj => ?_)
  exact (hothers _ (List.mem_map_of_mem hj)).squeeze_eq

theorem isPacked_opening : Text.IsPacked ['('] :=
  .of_not_isBlank (by decide) (by decide)

theorem isPacked_closing : Text.IsPacked [')'] :=
  .of_not_isBlank (by decide) (by decide)

section Body

variable {body : Body} (h : body.IsGrammatical)

include h

theorem Body.IsGrammatical.isPacked : Text.IsPacked body.chars := by
  cases h with
  | word h => exact h.isPacked
  | @list opening first closing others =>
    have hlist := isPacked_opening.append isPacked_closing
      (opening ++ (chainChars first others ++ closing))
    simpa only [Body.chars, List.append_assoc, List.singleton_append] using hlist

theorem Body.IsGrammatical.squeeze_chars :
    Text.squeeze false body.chars = body.squeezed.chars := by
  cases h with
  | word h => exact h.squeeze_eq
  | @list opening first closing others _ _ hwords hchained =>
    have hitems : ∀ x ∈ first :: others.map Joint.item, Text.IsPacked x :=
      fun x hx => (hwords x hx).isPacked
    have hchain := isPacked_chainChars hitems
    have hinside := hchain.append isPacked_closing closing
    change Text.squeeze false
      (['('] ++ (opening ++ (chainChars first others ++ (closing ++ [')'])))) = _
    rw [Text.squeeze_between isPacked_opening hinside,
      Text.squeeze_between hchain isPacked_closing,
      squeeze_chainChars (.inr rfl) hchained hitems]
    rfl

theorem Body.IsGrammatical.squeezed : body.squeezed.IsGrammatical := by
  cases h with
  | word h => exact .word h
  | list hopening hclosing hwords hchained =>
    refine .list (Text.isBlank_of_mem_squeeze hopening) (Text.isBlank_of_mem_squeeze hclosing) ?_
      (hchained.squeezed fun x hx => (hwords x hx).isPacked)
    rwa [map_item_squeezed hwords]

end Body

section Group

variable {g : Group} (h : g.IsGrammatical)

include h

theorem Group.IsGrammatical.isPacked : Text.IsPacked g.chars := by
  cases h with
  | plain h => exact h.isPacked
  | negated hletters _ _ h => exact (isPacked_not hletters).append h.isPacked _

theorem Group.IsGrammatical.squeeze_chars : Text.squeeze false g.chars = g.squeezed.chars := by
  cases h with
  | plain h => exact h.squeeze_chars
  | @negated letters gap body hletters _ _ h =>
    have hsame := Text.squeeze_of_not_isBlank (isBlank_of_upperChars_not hletters) false
    rw [Group.chars, Text.squeeze_between (isPacked_not hletters) h.isPacked, h.squeeze_chars,
      hsame]
    rfl

theorem Group.IsGrammatical.squeezed : g.squeezed.IsGrammatical := by
  cases h with
  | plain h => exact .plain h.squeezed
  | @negated letters gap body hletters hgap hright h =>
    refine .negated hletters (Text.isBlank_of_mem_squeeze hgap) ?_ h.squeezed
    rw [← h.squeeze_chars, Text.head?_squeeze h.isPacked.trimmed.head]
    exact hright.imp_left (mt Text.squeeze_eq_nil_iff.mp)

end Group

/-! ## What deleting leaves -/

/-- Where a blank or a parenthesis stood, one still stands. -/
theorem Deletes.kept {atParenthesis : Prop} {gap gap' : List Char}
    (h : Deletes atParenthesis gap gap') (hgap : gap ≠ [] ∨ atParenthesis) :
    gap' ≠ [] ∨ atParenthesis := by
  rcases h.allowed with hpar | rfl
  · exact .inr hpar
  · exact hgap

/-- A group keeps its ends. -/
theorem Group.Tightens.isGrammatical {g g' : Group} (ht : g.Tightens g') (h : g.IsGrammatical) :
    g'.IsGrammatical ∧ g'.chars.head? = g.chars.head? ∧ g'.chars.getLast? = g.chars.getLast? := by
  cases ht with
  | plain body => exact ⟨h, rfl, rfl⟩
  | @negated letters gap gap' body hgap' =>
    cases h with
    | negated hletters hgap hright h =>
      have hblank : ∀ c ∈ gap', Text.isBlank c = true :=
        fun c hc => hgap c (hgap'.sublist.subset hc)
      refine ⟨.negated hletters hblank (hgap'.kept hright) h, ?_, ?_⟩
      · have hne := (isPacked_not hletters).ne_nil
        rw [chars, chars, Text.head?_append_of_ne_nil hne, Text.head?_append_of_ne_nil hne]
      · simp only [chars, ← List.append_assoc,
          Text.getLast?_append_of_ne_nil _ h.isPacked.ne_nil]

theorem ChainTightens.head {g g' : Group} {js js' : List (Joint Group)}
    (h : ChainTightens g js g' js') : g.Tightens g' := by
  cases h with
  | nil h => exact h
  | cons h => exact h

/-- What is left of a chain is one. -/
theorem ChainTightens.chained {g g' : Group} {js js' : List (Joint Group)}
    (ht : ChainTightens g js g' js') (h : ∀ x ∈ g :: js.map Joint.item, x.IsGrammatical)
    (hchained : Chained "AND".toList g.chars (js.map (Joint.map Group.chars))) :
    (∀ x ∈ g' :: js'.map Joint.item, x.IsGrammatical) ∧
      Chained "AND".toList g'.chars (js'.map (Joint.map Group.chars)) := by
  induction ht with
  | @nil g g' ht =>
    have hg' := (ht.isGrammatical (h g List.mem_cons_self)).1
    exact ⟨List.forall_mem_singleton.mpr hg', .nil _⟩
  | @cons g g' j j' js js' ht hbefore hletters hbehind hothers ih =>
    obtain ⟨hg, hjs⟩ := List.forall_mem_cons.mp h
    obtain ⟨hg', -, hlast⟩ := ht.isGrammatical hg
    obtain ⟨-, hhead, -⟩ := hothers.head.isGrammatical (hjs _ List.mem_cons_self)
    cases hchained with
    | cons letters before behind left right others =>
      obtain ⟨hjs', hchained'⟩ := ih hjs others
      refine ⟨List.forall_mem_cons.mpr ⟨hg', hjs'⟩, .cons ?_ ?_ ?_ ?_ ?_ hchained'⟩
      · rw [← letters]
        exact congrArg Text.upperChars hletters
      · exact fun c hc => before c (hbefore.sublist.subset hc)
      · exact fun c hc => behind c (hbehind.sublist.subset hc)
      · rw [hlast]
        exact hbefore.kept left
      · change j'.behind ≠ [] ∨ j'.item.chars.head? = some '('
        rw [hhead]
        exact hbehind.kept right

theorem IsGrammatical.of_tightens {q q' : Layout} (h : q.IsGrammatical) (ht : q.Tightens q') :
    q'.IsGrammatical := by
  obtain ⟨hgroups, hchained⟩ := ht.chain.chained h.groups h.chained
  exact ⟨by rw [ht.start]; exact h.start, by rw [ht.stop]; exact h.stop, hgroups, hchained⟩

end Layout

end CiteSieve.Pasted
