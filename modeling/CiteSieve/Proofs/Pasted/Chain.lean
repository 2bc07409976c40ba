import CiteSieve.Proofs.Pasted.Canonical
import CiteSieve.Proofs.Text.Squeezed

/-!
# Items that operators join

Items with operators between them, with blanks around an operator or not. Where an operator touches
no item but at a parenthesis (`Chained`), it is found; where the items hold no operator themselves
(`IsItem`), no other is. So splitting gives back the items, with blanks between them or without.

* `Quiet`, `quiet_word`: stretches in which no operator begins, whatever stands before them.
* `squeeze_chainChars`: squeezing the whole squeezes the blanks and the items.
* `splitTopLevel_chain`: splitting such a text gives its items.
-/

namespace CiteSieve.Pasted

/-! ## Joints -/

/-- An operator with the blanks around it, and the item behind it. -/
structure Joint (α : Type) where
  before : List Char
  letters : List Char
  behind : List Char
  item : α

namespace Joint

variable {α β : Type}

def map (f : α → β) (j : Joint α) : Joint β :=
  ⟨j.before, j.letters, j.behind, f j.item⟩

/-- Every run of blanks is one space, within the item too. -/
def squeezed (j : Joint (List Char)) : Joint (List Char) :=
  ⟨Text.squeeze false j.before, j.letters, Text.squeeze false j.behind, Text.squeeze false j.item⟩

@[simp] theorem item_map (f : α → β) (j : Joint α) : (j.map f).item = f j.item := rfl

@[simp] theorem item_squeezed (j : Joint (List Char)) :
    j.squeezed.item = Text.squeeze false j.item := rfl

end Joint

/-- An item, and the items that operators join to it. -/
def chainChars : List Char → List (Joint (List Char)) → List Char
  | cs, [] => cs
  | cs, j :: js => cs ++ (j.before ++ (j.letters ++ (j.behind ++ chainChars j.item js)))

/-- Every operator is the word in some case, and no item touches it but with a parenthesis. -/
inductive Chained (word : List Char) : List Char → List (Joint (List Char)) → Prop
  | nil (cs : List Char) : Chained word cs []
  | cons {cs : List Char} {j : Joint (List Char)} {js : List (Joint (List Char))}
      (letters : Text.upperChars j.letters = word)
      (before : ∀ c ∈ j.before, Text.isBlank c = true)
      (behind : ∀ c ∈ j.behind, Text.isBlank c = true)
      (left : j.before ≠ [] ∨ cs.getLast? = some ')')
      (right : j.behind ≠ [] ∨ j.item.head? = some '(')
      (others : Chained word j.item js) : Chained word cs (j :: js)

instance decidableChained (word : List Char) : (cs : List Char) →
    (js : List (Joint (List Char))) → Decidable (Chained word cs js)
  | cs, [] => isTrue (.nil cs)
  | cs, j :: js =>
    have := decidableChained word j.item js
    decidable_of_iff
      (Text.upperChars j.letters = word ∧ (∀ c ∈ j.before, Text.isBlank c = true) ∧
        (∀ c ∈ j.behind, Text.isBlank c = true) ∧ (j.before ≠ [] ∨ cs.getLast? = some ')') ∧
        (j.behind ≠ [] ∨ j.item.head? = some '(') ∧ Chained word j.item js)
      ⟨fun ⟨hletters, hbefore, hbehind, hleft, hright, h⟩ =>
          .cons hletters hbefore hbehind hleft hright h,
        fun h => by
          cases h with
          | cons hletters hbefore hbehind hleft hright h =>
            exact ⟨hletters, hbefore, hbehind, hleft, hright, h⟩⟩

theorem head?_chainChars {cs : List Char} (hne : cs ≠ []) (js : List (Joint (List Char))) :
    (chainChars cs js).head? = cs.head? := by
  cases js with
  | nil => rfl
  | cons j js => exact Text.head?_append_of_ne_nil hne _

/-! ## Squeezing -/

section Squeezing

variable {word cs : List Char} {js : List (Joint (List Char))}

theorem isPacked_chainChars (h : ∀ x ∈ cs :: js.map Joint.item, Text.IsPacked x) :
    Text.IsPacked (chainChars cs js) := by
  induction js generalizing cs with
  | nil => exact h cs List.mem_cons_self
  | cons j js ih =>
    obtain ⟨hcs, hjs⟩ := List.forall_mem_cons.mp h
    have hchain := hcs.append (ih hjs) (j.before ++ (j.letters ++ j.behind))
    simpa only [chainChars, List.append_assoc] using hchain

/-- A squeezed chain is one. -/
theorem Chained.squeezed (h : Chained word cs js)
    (hitems : ∀ x ∈ cs :: js.map Joint.item, Text.IsPacked x) :
    Chained word (Text.squeeze false cs) (js.map Joint.squeezed) := by
  induction h with
  | nil cs => exact .nil _
  | @cons cs j js letters before behind left right _ ih =>
    obtain ⟨hcs, hjs⟩ := List.forall_mem_cons.mp hitems
    have hitem := hjs _ List.mem_cons_self
    refine .cons letters (Text.isBlank_of_mem_squeeze before) (Text.isBlank_of_mem_squeeze behind)
      ?left ?right (ih hjs)
    case left =>
      rw [Text.getLast?_squeeze hcs.trimmed.last]
      exact left.imp_left (mt Text.squeeze_eq_nil_iff.mp)
    case right =>
      rw [Joint.item_squeezed, Text.head?_squeeze hitem.trimmed.head]
      exact right.imp_left (mt Text.squeeze_eq_nil_iff.mp)

/-- The only blanks at its operators are spaces. -/
theorem Chained.spaces_squeezed (h : Chained word cs js) : ∀ j ∈ js.map Joint.squeezed,
    (∀ c ∈ j.before, c = ' ') ∧ ∀ c ∈ j.behind, c = ' ' := by
  induction h with
  | nil => exact nofun
  | cons _ before behind _ _ _ ih =>
    exact List.forall_mem_cons.mpr ⟨⟨Text.squeeze_blanks before, Text.squeeze_blanks behind⟩, ih⟩

variable (hw : word = "AND".toList ∨ word = "OR".toList)

include hw

theorem isPacked_operator {op : List Char} (h : Text.upperChars op = word) : Text.IsPacked op :=
  .of_not_isBlank (ne_nil_of_upperChars hw h) (isBlank_of_upperChars hw h)

/-- **Squeezing a chain** squeezes its blanks and its items. -/
theorem squeeze_chainChars (h : Chained word cs js)
    (hitems : ∀ x ∈ cs :: js.map Joint.item, Text.IsPacked x) :
    Text.squeeze false (chainChars cs js) =
      chainChars (Text.squeeze false cs) (js.map Joint.squeezed) := by
  induction h with
  | nil cs => rfl
  | @cons cs j js letters _ _ _ _ _ ih =>
    obtain ⟨hcs, hjs⟩ := List.forall_mem_cons.mp hitems
    have hop := isPacked_operator hw letters
    have hchain := isPacked_chainChars hjs
    have hletters : Text.squeeze false j.letters = j.letters :=
      Text.squeeze_of_not_isBlank (isBlank_of_upperChars hw letters) false
    rw [chainChars, Text.squeeze_between hcs (hop.append hchain j.behind),
      Text.squeeze_between hop hchain, ih hjs, hletters]
    rfl

end Squeezing

/-! ## Quiet stretches -/

section Quiet

variable {word as bs cs rest : List Char}

theorem silent_append {r : Reading} {last : Option Char} (ha : Silent word r last as (bs ++ rest))
    (hb : Silent word (r.behind as) (as.getLast?.or last) bs rest) :
    Silent word r last (as ++ bs) rest := by
  induction as generalizing r last with
  | nil => exact hb
  | cons a as ih =>
    obtain ⟨hhere, ha⟩ := silent_cons_iff.mp ha
    rw [List.cons_append, silent_cons_iff]
    rw [getLast?_cons_or] at hb
    exact ⟨by rwa [List.append_assoc], ih ha hb⟩

/-- No operator begins in the stretch, whatever stands before it. -/
def Quiet (word cs rest : List Char) : Prop :=
  ∀ r last, Silent word r last cs rest

theorem quiet_nil : Quiet word [] rest :=
  fun _ _ => silent_nil

theorem Quiet.append (ha : Quiet word as (bs ++ rest)) (hb : Quiet word bs rest) :
    Quiet word (as ++ bs) rest :=
  fun r last => silent_append (ha r last) (hb _ _)

/-- A space or a parenthesis. -/
def IsMark (c : Char) : Prop :=
  c = ' ' ∨ c = '(' ∨ c = ')'

theorem isMark_of_spaces (h : ∀ c ∈ cs, c = ' ') : ∀ c ∈ cs, IsMark c :=
  fun c hc => .inl (h c hc)

/-- What begins with a space begins with a mark. -/
theorem isMark_head? (hne : cs ≠ []) (h : ∀ c ∈ cs, c = ' ') (rest : List Char) :
    ∀ c ∈ (cs ++ rest).head?, IsMark c := by
  rw [Text.head?_append_of_ne_nil hne]
  exact fun c hc => isMark_of_spaces h c (List.mem_of_mem_head? hc)

variable (hw : word = "AND".toList ∨ word = "OR".toList)

include hw

theorem not_isMark_of_upperChars {op : List Char} (h : Text.upperChars op = word) :
    ∀ c ∈ op, ¬ IsMark c := by
  intro c hc
  obtain ⟨hclose, hopen⟩ := ne_of_mem_operator hw h hc
  rintro (hspace | hpar | hpar)
  · exact hclose (.inl hspace)
  · exact hopen (.inr hpar)
  · exact hclose (.inr hpar)

theorem quiet_marks (h : ∀ c ∈ cs, IsMark c) : Quiet word cs rest := by
  induction cs with
  | nil => exact quiet_nil
  | cons c cs ih =>
    intro r last
    refine silent_cons_iff.mpr ⟨fun op after heq hop => ?_, ?_⟩
    · cases op with
      | nil => exact ne_nil_of_upperChars hw hop.letters rfl
      | cons d op =>
        obtain rfl := (List.cons.inj heq).1
        exact not_isMark_of_upperChars hw hop.letters d List.mem_cons_self (h d List.mem_cons_self)
    · exact ih (fun d hd => h d (List.mem_cons_of_mem c hd)) _ _

/-- **A word that is not the operator** is passed over, if a space, a parenthesis or nothing
follows. -/
theorem quiet_word (hcs : ∀ c ∈ cs, isPlain c = true ∧ c ≠ ' ') (hne : Text.upperChars cs ≠ word)
    (hrest : ∀ c ∈ rest.head?, IsMark c) : Quiet word cs rest := by
  intro r last before op after hlt heq hop
  have hletters := not_isMark_of_upperChars hw hop.letters
  cases before with
  | nil =>
    rw [List.nil_append] at heq
    rcases List.append_eq_append_iff.mp heq with ⟨y, rfl, rfl⟩ | ⟨x, rfl, rfl⟩
    · -- The word would go on behind the operator.
      cases y with
      | nil => exact hne (by rw [List.append_nil, hop.letters])
      | cons c y =>
        obtain ⟨hplain, hspace⟩ := hcs c (by simp)
        rcases hop.right c rfl with h | h
        · exact hspace h
        · exact (isPlain_iff.mp hplain).2.1 h
    · -- The operator would go on behind the word.
      cases x with
      | nil => exact hne (by rw [← hop.letters, List.append_nil])
      | cons c x => exact hletters c (by simp) (hrest c rfl)
  | cons b before =>
    obtain ⟨z, rfl⟩ : b :: before <+: cs :=
      List.prefix_of_prefix_length_le ⟨_, heq⟩ (List.prefix_append cs rest) hlt.le
    obtain ⟨c, hc⟩ : ∃ c, (b :: before).getLast? = some c :=
      Option.isSome_iff_exists.mp (List.getLast?_isSome.mpr (List.cons_ne_nil b before))
    obtain ⟨hplain, hspace⟩ := hcs c (List.mem_append_left z (List.mem_of_getLast? hc))
    have hleft := hop.left
    rw [hc, Option.some_or] at hleft
    rcases hleft with h | h
    · exact hspace (Option.some.inj h)
    · exact (isPlain_iff.mp hplain).2.2.1 (Option.some.inj h)

end Quiet

/-! ## Splitting -/

/-- An item that splitting at the word leaves alone, also without blanks around it where it has
parentheses. -/
structure IsItem (word cs : List Char) : Prop where
  packed : Text.IsPacked cs
  outside : ({} : Reading).behind cs = {}
  silent : ∀ last rest, ((∀ c ∈ rest.head?, IsMark c) ∨ cs.getLast? = some ')') →
    Silent word {} last cs rest

/-- Spaces leave a reader outside. -/
theorem behind_eq_of_spaces {cs : List Char} (h : ∀ c ∈ cs, c = ' ') :
    ({} : Reading).behind cs = {} := by
  rw [List.eq_replicate_of_mem h]
  exact Reading.behind_spaces _

section Splitting

variable {word : List Char}

/-- Behind an item, and spaces or its parenthesis, the word stands as an operator. -/
theorem IsItem.operatorAt_padded {cs gap before op after : List Char} (h : IsItem word cs)
    (hletters : Text.upperChars op = word) (hgap : ∀ c ∈ gap, c = ' ')
    (hbefore : ∀ c ∈ before, c = ' ') (hleft : before ≠ [] ∨ cs.getLast? = some ')')
    (hright : ∀ c ∈ after.head?, c = ' ' ∨ c = '(') (last : Option Char) :
    OperatorAt word (({} : Reading).behind (gap ++ (cs ++ before)))
      ((gap ++ (cs ++ before)).getLast?.or last) [] op after where
  letters := hletters
  outside := by
    rw [Reading.behind_nil, Reading.behind_append, behind_eq_of_spaces hgap, Reading.behind_append,
      h.outside, behind_eq_of_spaces hbefore]
  left := by
    have hne : cs ++ before ≠ [] := List.append_ne_nil_of_left_ne_nil h.packed.ne_nil _
    rw [List.getLast?_nil, Option.none_or, Text.getLast?_append_of_ne_nil gap hne]
    rcases List.eq_nil_or_concat before with rfl | ⟨spaces, c, rfl⟩
    · right
      rw [List.append_nil, hleft.resolve_left (fun hne => hne rfl), Option.some_or]
    · left
      rw [List.concat_eq_append] at hbefore ⊢
      rw [← List.append_assoc, List.getLast?_concat, Option.some_or, hbefore c (by simp)]
  right := hright

/-- Spaces or a parenthesis stand behind an operator. -/
theorem head?_behind {cs gap : List Char} (hne : cs ≠ []) (hgap : ∀ c ∈ gap, c = ' ')
    (h : gap ≠ [] ∨ cs.head? = some '(') (js : List (Joint (List Char))) :
    ∀ c ∈ (gap ++ chainChars cs js).head?, c = ' ' ∨ c = '(' := by
  intro c hc
  cases gap with
  | nil =>
    rw [List.nil_append, head?_chainChars hne, h.resolve_left (fun hne => hne rfl)] at hc
    exact .inr (Option.some.inj hc).symm
  | cons d gap =>
    obtain rfl := Option.some.inj hc
    exact .inl (hgap d List.mem_cons_self)

/-- What splitting makes of an item with spaces around it. -/
theorem IsItem.partsOf_padded {cs gap before : List Char} (h : IsItem word cs)
    (hgap : ∀ c ∈ gap, c = ' ') (hbefore : ∀ c ∈ before, c = ' ') (pieces : List (List Char)) :
    partsOf ((gap ++ (cs ++ before)) :: pieces) = cs :: partsOf pieces := by
  have hblank : ∀ {spaces : List Char}, (∀ c ∈ spaces, c = ' ') →
      ∀ c ∈ spaces, Text.isBlank c = true := by
    intro spaces hspaces c hc
    obtain rfl := hspaces c hc
    decide
  have htrim := Text.trimChars_padded (hblank hgap) (hblank hbefore) h.packed.trimmed
  rw [partsOf_cons, htrim, if_neg h.packed.ne_nil]

variable (hw : word = "AND".toList ∨ word = "OR".toList)

include hw

/-- No operator begins within an item or the spaces around it. -/
theorem IsItem.silent_padded {cs gap before rest : List Char} (h : IsItem word cs)
    (hgap : ∀ c ∈ gap, c = ' ') (hbefore : ∀ c ∈ before, c = ' ')
    (hend : rest = [] ∨ before ≠ [] ∨ cs.getLast? = some ')') (last : Option Char) :
    Silent word {} last (gap ++ (cs ++ before)) rest := by
  refine silent_append (quiet_marks hw (isMark_of_spaces hgap) _ _) (silent_append ?_ ?_)
  · rw [behind_eq_of_spaces hgap]
    refine h.silent _ _ ?_
    rcases hend with rfl | hne | hlast
    · rw [List.append_nil]
      exact .inl fun c hc => isMark_of_spaces hbefore c (List.mem_of_mem_head? hc)
    · exact .inl (isMark_head? hne hbefore _)
    · exact .inr hlast
  · exact quiet_marks hw (isMark_of_spaces hbefore) _ _

/-- **The parts of a chain** are its items, also where it comes behind spaces. -/
theorem partsOf_chain {cs : List Char} {js : List (Joint (List Char))} (h : Chained word cs js)
    (hspaces : ∀ j ∈ js, (∀ c ∈ j.before, c = ' ') ∧ ∀ c ∈ j.behind, c = ' ')
    (hitems : ∀ x ∈ cs :: js.map Joint.item, IsItem word x) {gap : List Char}
    (hgap : ∀ c ∈ gap, c = ' ') (last : Option Char) :
    let found := cutFrom word {} last (gap ++ chainChars cs js)
    partsOf (found.1 :: found.2) = cs :: js.map Joint.item := by
  induction h generalizing gap last with
  | nil cs =>
    have hitem := hitems cs List.mem_cons_self
    have hnil : ∀ c ∈ ([] : List Char), c = ' ' := nofun
    have hcut := cutFrom_of_silent hw (hitem.silent_padded hw hgap hnil (.inl rfl) last)
    rw [cutFrom_nil, List.append_nil, List.append_nil] at hcut
    have hparts := hitem.partsOf_padded hgap hnil []
    rw [List.append_nil] at hparts
    rw [chainChars, hcut]
    dsimp only [behind]
    rw [List.append_nil]
    exact hparts
  | @cons cs j js letters _ _ left right _ ih =>
    obtain ⟨hitem, hothers⟩ := List.forall_mem_cons.mp hitems
    obtain ⟨⟨hbefore, hbehind⟩, hspaces⟩ := List.forall_mem_cons.mp hspaces
    have hop := hitem.operatorAt_padded letters hgap hbefore left
      (head?_behind (hothers _ List.mem_cons_self).packed.ne_nil hbehind right js) last
    have hsilent : Silent word {} last (gap ++ (cs ++ j.before))
        (j.letters ++ (j.behind ++ chainChars j.item js)) :=
      hitem.silent_padded hw hgap hbefore (.inr left) last
    have hcut := cutFrom_of_silent hw hsilent
    rw [cutFrom_operator hw hop] at hcut
    have htext : gap ++ chainChars cs (j :: js) = gap ++ (cs ++ j.before) ++
        (j.letters ++ (j.behind ++ chainChars j.item js)) := by
      rw [chainChars]
      simp only [List.append_assoc]
    rw [htext, hcut]
    dsimp only [behind]
    rw [List.append_nil, hitem.partsOf_padded hgap hbefore, ih hspaces hothers hbehind _]
    rfl

/-- **Splitting a chain gives its items**, whether spaces stand at its parentheses or not. -/
theorem splitTopLevel_chain {cs : List Char} {js : List (Joint (List Char))}
    (h : Chained word cs js)
    (hspaces : ∀ j ∈ js, (∀ c ∈ j.before, c = ' ') ∧ ∀ c ∈ j.behind, c = ' ')
    (hitems : ∀ x ∈ cs :: js.map Joint.item, IsItem word x) :
    splitTopLevel (chainChars cs js) word = cs :: js.map Joint.item := by
  have hnil : ∀ c ∈ ([] : List Char), c = ' ' := nofun
  exact partsOf_chain hw h hspaces hitems hnil none

end Splitting

end CiteSieve.Pasted
