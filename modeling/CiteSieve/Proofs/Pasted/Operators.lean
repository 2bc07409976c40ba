import CiteSieve.Assoc
import CiteSieve.Proofs.Pasted.Cut

/-!
# Where operators stand

The search for a word goes through a text from the left, and keeps the nesting and whether a
backslash hides the next character. An operator is described here by its place alone: what stands
before it leads to the outside, and its neighbours are of the right kind (`OperatorAt`). The search
cuts the text there, and nowhere else.

* `length_of_upperChars`: an operator is as long as its word, in any case.
* `cutFrom_step`, `cutFrom_operator`: the two things that the search does.
* `cutFrom_of_silent`: it goes through a stretch in which no operator begins (`Silent`), and a text
  that is such a stretch is not split (`splitTopLevel_of_silent`).
-/

namespace CiteSieve.Pasted

/-! ## Reading -/

/-- Where a reader stands: the nesting, and whether a backslash hides the next character. -/
structure Reading where
  nesting : Nesting := {}
  hidden : Bool := false
  deriving DecidableEq, Repr

namespace Reading

/-- After one more character. -/
def next (r : Reading) (c : Char) : Reading :=
  if r.hidden then ⟨r.nesting, false⟩
  else if c = '\\' then ⟨r.nesting, true⟩
  else ⟨r.nesting.next c, false⟩

/-- After a text. -/
def behind (r : Reading) (cs : List Char) : Reading :=
  cs.foldl next r

@[simp] theorem behind_nil (r : Reading) : r.behind [] = r := rfl

@[simp] theorem behind_cons (r : Reading) (c : Char) (cs : List Char) :
    r.behind (c :: cs) = (r.next c).behind cs := rfl

@[simp] theorem behind_append (r : Reading) (as bs : List Char) :
    r.behind (as ++ bs) = (r.behind as).behind bs :=
  List.foldl_append ..

/-- Plain characters leave the depth as it is. -/
theorem next_of_isPlain {c : Char} (h : isPlain c = true) (d : Nat) :
    (⟨⟨d, none⟩, false⟩ : Reading).next c = ⟨⟨d, none⟩, false⟩ := by
  simp [next, (isPlain_iff.mp h).2.2.2, Pasted.next_of_isPlain h d]

theorem behind_plain {cs : List Char} (h : ∀ c ∈ cs, isPlain c = true) (d : Nat) :
    (⟨⟨d, none⟩, false⟩ : Reading).behind cs = ⟨⟨d, none⟩, false⟩ := by
  induction cs with
  | nil => rfl
  | cons c cs ih =>
    rw [behind_cons, next_of_isPlain (h c List.mem_cons_self)]
    exact ih fun c' hc' => h c' (List.mem_cons_of_mem c hc')

theorem behind_of_isPlain {cs : List Char} (h : ∀ c ∈ cs, isPlain c = true) :
    ({} : Reading).behind cs = {} :=
  behind_plain h 0

end Reading

/-! ## Operators by their place -/

/-- The word stands as an operator, in some case, between `before`, which is read from `r` behind
the character `last`, and `after`: outside quotes and parentheses, behind a space or a closing
parenthesis, and before a space, an opening parenthesis or the end. -/
structure OperatorAt (word : List Char) (r : Reading) (last : Option Char)
    (before op after : List Char) : Prop where
  letters : Text.upperChars op = word
  outside : r.behind before = {}
  left : before.getLast?.or last = some ' ' ∨ before.getLast?.or last = some ')'
  right : ∀ c ∈ after.head?, c = ' ' ∨ c = '('

section Place

variable {word : List Char} {r : Reading} {last : Option Char} {c : Char}
  {x before op after cs rest : List Char}

/-- What has been read counts as what the reader comes from. -/
theorem operatorAt_append_iff : OperatorAt word r last (x ++ before) op after ↔
    OperatorAt word (r.behind x) (x.getLast?.or last) before op after := by
  have hlast : (x ++ before).getLast?.or last = before.getLast?.or (x.getLast?.or last) := by
    rw [List.getLast?_append, Option.or_assoc]
  constructor
  · rintro ⟨hletters, houtside, hleft, hright⟩
    exact ⟨hletters, by rwa [← Reading.behind_append], by rwa [← hlast], hright⟩
  · rintro ⟨hletters, houtside, hleft, hright⟩
    exact ⟨hletters, by rwa [Reading.behind_append], by rwa [hlast], hright⟩

theorem operatorAt_cons_iff : OperatorAt word r last (c :: before) op after ↔
    OperatorAt word (r.next c) (some c) before op after :=
  operatorAt_append_iff (x := [c])

/-- In the stretch `cs` of the text `cs ++ rest` no operator begins. -/
def Silent (word : List Char) (r : Reading) (last : Option Char) (cs rest : List Char) : Prop :=
  ∀ before op after, before.length < cs.length → before ++ (op ++ after) = cs ++ rest →
    ¬ OperatorAt word r last before op after

theorem silent_nil : Silent word r last [] rest :=
  fun _ _ _ hlt => absurd hlt (Nat.not_lt_zero _)

theorem silent_cons_iff : Silent word r last (c :: cs) rest ↔
    (∀ op after, op ++ after = c :: (cs ++ rest) → ¬ OperatorAt word r last [] op after) ∧
      Silent word (r.next c) (some c) cs rest := by
  constructor
  · intro h
    refine ⟨fun op after heq => h [] op after (Nat.succ_pos _) heq, ?_⟩
    intro before op after hlt heq hop
    refine h (c :: before) op after (Nat.succ_lt_succ hlt) ?_ (operatorAt_cons_iff.mpr hop)
    rw [List.cons_append, heq, List.cons_append]
  · rintro ⟨hhere, hrest⟩ before op after hlt heq hop
    cases before with
    | nil => exact hhere op after heq hop
    | cons b before =>
      obtain ⟨rfl, htail⟩ := List.cons.inj heq
      exact hrest before op after (Nat.lt_of_succ_lt_succ hlt) htail (operatorAt_cons_iff.mp hop)

end Place

/-! ## The letters of an operator -/

/-- A letter whose capital is several letters has others among them than those of the words. -/
theorem upperExpansions_avoid : ∀ e ∈ Text.upperExpansions,
    (∀ n ∈ e.2, Char.ofNat n ∈ "ANDORT".toList) → e.2.length = 1 := by
  decide

theorem length_upperCodes {n : Nat}
    (h : ∀ m ∈ Text.upperCodes n, Char.ofNat m ∈ "ANDORT".toList) :
    (Text.upperCodes n).length = 1 := by
  unfold Text.upperCodes at h ⊢
  split
  · split <;> rfl
  · rename_i hlarge
    rw [if_neg hlarge] at h
    split
    · rename_i ns hns
      rw [hns] at h
      exact upperExpansions_avoid _ (Assoc.mem_of_lookup hns) h
    · rfl

section Letters

variable {word op : List Char} (hw : word = "AND".toList ∨ word = "OR".toList)
  (h : Text.upperChars op = word)

include hw h

/-- **An operator is as long as its word**, in any case. -/
theorem length_of_upperChars : op.length = word.length := by
  have hword : ∀ c ∈ word, c ∈ "ANDORT".toList := by
    rcases hw with rfl | rfl <;> decide
  rw [← h] at hword ⊢
  clear hw h
  induction op with
  | nil => rfl
  | cons c op ih =>
    unfold Text.upperChars at hword ih ⊢
    rw [List.flatMap_cons] at hword ⊢
    have hhead : (Text.upperCodes c.toNat).length = 1 :=
      length_upperCodes fun m hm =>
        hword _ (List.mem_append_left _ (List.mem_map_of_mem hm))
    have htail := ih fun c' hc' => hword c' (List.mem_append_right _ hc')
    rw [List.length_append, List.length_map, hhead, ← htail, List.length_cons, Nat.add_comm]

theorem ne_nil_of_upperChars : op ≠ [] := by
  rintro rfl
  exact (isWord_of hw).ne_nil h.symm

omit hw in
/-- A character of an operator that is its own capital is a letter of the word. -/
theorem mem_of_mem_operator {c : Char} (hc : c ∈ op) (hsame : Text.upperChars [c] = [c]) :
    c ∈ word := by
  rw [← h]
  refine List.mem_flatMap.mpr ⟨c, hc, ?_⟩
  rw [show (Text.upperCodes c.toNat).map Char.ofNat = Text.upperChars [c] from
    (List.flatMap_singleton ..).symm, hsame]
  exact List.mem_singleton_self c

/-- The letters of an operator are no quotes, parentheses, backslashes or spaces. -/
theorem isPlain_of_upperChars : ∀ c ∈ op, isPlain c = true ∧ c ≠ ' ' := by
  intro c hc
  have hmem := mem_of_mem_operator h hc
  constructor
  · by_contra hplain
    have hspecial : c = '"' ∨ c = '\'' ∨ c = '(' ∨ c = ')' ∨ c = '\\' := by
      by_contra hnone
      push Not at hnone
      refine hplain (isPlain_iff.mpr ⟨?_, hnone.2.2⟩)
      simp [isStraightQuote, hnone.1, hnone.2.1]
    refine hplain ((isWord_of hw).plain c (hmem ?_))
    rcases hspecial with rfl | rfl | rfl | rfl | rfl <;> decide
  · rintro rfl
    exact absurd ((isWord_of hw).noBlank ' ' (hmem (by decide))) (by decide)

/-- The letters of an operator are no blanks: every blank is its own capital. -/
theorem isBlank_of_upperChars : ∀ c ∈ op, Text.isBlank c = false := by
  refine fun c hc => Bool.eq_false_iff.mpr fun hblank => ?_
  have hsame := Text.eq_false_of_isBlank (p := fun c => Text.upperChars [c] != [c])
    (by decide +kernel) hblank
  have hmem := mem_of_mem_operator h hc (by simpa using hsame)
  rw [(isWord_of hw).noBlank c hmem] at hblank
  exact nomatch hblank

theorem ne_of_mem_operator {c : Char} (hc : c ∈ op) :
    ¬ (c = ' ' ∨ c = ')') ∧ ¬ (c = ' ' ∨ c = '(') := by
  obtain ⟨hplain, hspace⟩ := isPlain_of_upperChars hw h c hc
  obtain ⟨-, hopen, hclose, -⟩ := isPlain_iff.mp hplain
  exact ⟨not_or.mpr ⟨hspace, hclose⟩, not_or.mpr ⟨hspace, hopen⟩⟩

end Letters

/-! ## What the search does -/

/-- The search as it goes on from where a reader stands. -/
def cutFrom (word : List Char) (r : Reading) (last : Option Char) (cs : List Char) :
    List Char × List (List Char) :=
  cut word r.nesting last (if r.hidden then 1 else 0) r.hidden cs

theorem cutFrom_nil (word : List Char) (r : Reading) (last : Option Char) :
    cutFrom word r last [] = ([], []) := by
  unfold cutFrom cut
  rfl

/-- At a character that is not skipped it does not matter what skipped ones are for. -/
theorem cut_keep (word : List Char) (n : Nesting) (last : Option Char) (keep : Bool)
    (cs : List Char) : cut word n last 0 keep cs = cut word n last 0 false cs := by
  cases cs with
  | nil =>
    unfold cut
    rfl
  | cons c cs =>
    conv => lhs; unfold cut
    conv => rhs; unfold cut

section Search

variable {word : List Char} (hw : word = "AND".toList ∨ word = "OR".toList) {r : Reading}
  {n : Nesting} {last : Option Char} {c : Char} {cs op after rest : List Char}

include hw

/-- **What the search tests** at one character. -/
theorem operatorHere_iff : operatorHere word n last cs = true ↔
    ∃ op after, op ++ after = cs ∧ OperatorAt word ⟨n, false⟩ last [] op after := by
  constructor
  · intro h
    cases cs with
    | nil => exact absurd h (by simp [operatorHere])
    | cons c cs =>
      obtain ⟨hquote, hdepth, -, -, -, hlast, hfollows⟩ := operatorHere_cons h
      obtain ⟨hletters, hnext⟩ := wordFollows_iff.mp hfollows
      have hn : n = {} := by
        cases n
        simp_all
      refine ⟨_, _, List.take_append_drop word.length (c :: cs), hletters, ?_, hlast, hnext⟩
      rw [Reading.behind_nil, hn]
  · rintro ⟨op, after, rfl, hletters, houtside, hlast, hnext⟩
    have hlen := length_of_upperChars hw hletters
    have hn : n = {} := congrArg Reading.nesting houtside
    have hfollows : wordFollows word (op ++ after) = true := by
      rw [wordFollows_iff, ← hlen, List.take_left, List.drop_left]
      exact ⟨hletters, hnext⟩
    cases op with
    | nil => exact absurd rfl (ne_nil_of_upperChars hw hletters)
    | cons c op =>
      obtain ⟨hq, ho, hc, -⟩ :=
        isPlain_iff.mp (isPlain_of_upperChars hw hletters c List.mem_cons_self).1
      simpa [operatorHere, hn, hq, ho, hc] using ⟨hlast, hfollows⟩

/-- **One character** is taken where no operator begins. -/
theorem cutFrom_step
    (h : ∀ op after, op ++ after = c :: cs → ¬ OperatorAt word r last [] op after) :
    cutFrom word r last (c :: cs) = behind [c] (cutFrom word (r.next c) (some c) cs) := by
  obtain ⟨n, hidden⟩ := r
  cases hidden with
  | true =>
    change cut word n last 1 true (c :: cs) = behind [c] (cut word n (some c) 0 false cs)
    rw [← cut_keep word n (some c) true]
    conv => lhs; unfold cut
    rfl
  | false =>
    have hno : operatorHere word n last (c :: cs) = false := by
      refine Bool.eq_false_iff.mpr fun hop => ?_
      obtain ⟨op, after, heq, hop⟩ := (operatorHere_iff hw).mp hop
      exact h op after heq hop
    by_cases hc : c = '\\'
    · subst hc
      unfold cutFrom
      conv => lhs; unfold cut
      cases cs with
      | nil => simp [hno, behind, cut]
      | cons d cs => simp [Reading.next, behind]
    · have hnext : Reading.next ⟨n, false⟩ c = ⟨n.next c, false⟩ := by simp [Reading.next, hc]
      rw [hnext]
      exact cut_step hc hno

/-- **An operator** is taken out, and the search begins anew behind it. -/
theorem cutFrom_operator (h : OperatorAt word r last [] op after) :
    cutFrom word r last (op ++ after) =
      ([], let found := cutFrom word {} op.getLast? after; found.1 :: found.2) := by
  have hr : r = {} := h.outside
  subst hr
  have hhere := (operatorHere_iff hw).mpr ⟨op, after, rfl, h⟩
  have hlen := length_of_upperChars hw h.letters
  cases op with
  | nil => exact absurd rfl (ne_nil_of_upperChars hw h.letters)
  | cons c op =>
    have hb := (isPlain_iff.mp (isPlain_of_upperChars hw h.letters c List.mem_cons_self).1).2.2.2
    have hskip : cut word {} (some c) (word.length - 1) false (op ++ after) =
        cut word {} (op.getLast?.or (some c)) 0 false after := by
      rw [← cut_skip, ← hlen, List.length_cons, Nat.add_sub_cancel]
    have hlast : (c :: op).getLast? = op.getLast?.or (some c) := by
      rw [← getLast?_cons_or c op none, Option.or_none]
    rw [hlast, List.cons_append]
    rw [List.cons_append] at hhere
    change cut word {} last 0 false (c :: (op ++ after)) = _
    conv => lhs; unfold cut
    rw [if_neg fun hc => hb hc.1, if_pos hhere, hskip]
    rfl

/-- **The search goes through a stretch** in which no operator begins. -/
theorem cutFrom_of_silent (h : Silent word r last cs rest) :
    cutFrom word r last (cs ++ rest) =
      behind cs (cutFrom word (r.behind cs) (cs.getLast?.or last) rest) := by
  induction cs generalizing r last with
  | nil => rfl
  | cons c cs ih =>
    obtain ⟨hhere, hrest⟩ := silent_cons_iff.mp h
    rw [List.cons_append, cutFrom_step hw hhere, ih hrest, behind_behind, getLast?_cons_or]
    rfl

/-- A text in which no operator begins is one piece. -/
theorem cut_of_silent (h : Silent word {} last cs []) : cut word {} last 0 false cs = (cs, []) := by
  have hcut := cutFrom_of_silent hw h
  rw [List.append_nil, cutFrom_nil] at hcut
  refine hcut.trans ?_
  rw [behind, List.append_nil]

/-- **A text in which no operator begins** is not split. -/
theorem splitTopLevel_of_silent (h : Silent word {} none cs []) (hne : cs ≠ [])
    (htrim : Text.IsTrimmed cs) : splitTopLevel cs word = [cs] := by
  have hpart := splitTopLevel_of_joins (isWord_of hw) (.single htrim (cut_of_silent hw h))
    (by simpa using hne)
  rwa [List.intercalate_singleton] at hpart

end Search

end CiteSieve.Pasted
