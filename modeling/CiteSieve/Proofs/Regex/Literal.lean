import CiteSieve.Proofs.Regex.Forward
import CiteSieve.Text.Slice
import Mathlib.Data.List.Forall2

/-!
# Searching for a text itself

A search takes the first position at which its expression matches. The expression of a text
matches where the text stands, character by character, up to the case that is not told apart.

* `Fold.alike_unicode_iff`: when two characters are not told apart without regard to case.
* `search?_eq_some_iff`, `search?_eq_none_iff`: a search by what matches at each position;
  `MatchesAt`: expressions whose matches are told by their offsets.
* `run_literal_iff`: the expression of a text takes the text and nothing else.
* `matchesAt_literal`: its search finds the first place where the text stands.
-/

namespace CiteSieve

/-! ## Characters that are not told apart -/

/-- `fold` does not tell the character `d` from `c`. -/
def Fold.Alike (fold : Fold) (c d : Char) : Prop :=
  fold.key d.toNat ∈ fold.variants (fold.key c.toNat)

theorem CharTest.accepts_one_iff {fold : Fold} {c d : Char} :
    (CharTest.one c.toNat false fold).accepts d = true ↔ fold.Alike c d := by
  simp only [CharTest.accepts, Bool.bne_false, List.contains_iff_mem, Fold.Alike]

/-- With regard to case a character is only like itself. -/
theorem Fold.alike_exact_iff {c d : Char} : Fold.exact.Alike c d ↔ c = d := by
  simp only [Fold.Alike, Fold.variants, Fold.key, List.mem_singleton, Char.toNat_inj]
  exact eq_comm

/-- No letter belongs to two classes of letters that share a capital. -/
theorem sharedCapitals_unique : ∀ ns ∈ Text.sharedCapitals, ∀ n ∈ ns,
    ∀ ns' ∈ Text.sharedCapitals, n ∈ ns' → ns' = ns := by
  decide +kernel

/-- Without regard to case, characters are not told apart if they have one lower-case form, or if
their lower-case forms share a capital. -/
theorem Fold.alike_unicode_iff {c d : Char} : Fold.unicode.Alike c d ↔
    Text.lowerCode c.toNat = Text.lowerCode d.toNat ∨
      ∃ ns ∈ Text.sharedCapitals, Text.lowerCode c.toNat ∈ ns ∧ Text.lowerCode d.toNat ∈ ns := by
  show Text.lowerCode d.toNat ∈ Text.caseVariants (Text.lowerCode c.toNat) ↔ _
  generalize Text.lowerCode c.toNat = m
  generalize Text.lowerCode d.toNat = n
  unfold Text.caseVariants
  cases hfind : Text.sharedCapitals.find? (·.contains m) with
  | none =>
    have hnone : ∀ ns ∈ Text.sharedCapitals, m ∉ ns := fun ns hns hm =>
      List.find?_eq_none.mp hfind ns hns (List.contains_iff_mem.mpr hm)
    rw [List.mem_singleton]
    constructor
    · exact fun h => .inl h.symm
    · rintro (h | ⟨ns, hns, hm, -⟩)
      · exact h.symm
      · exact absurd hm (hnone ns hns)
  | some ns =>
    have hns : ns ∈ Text.sharedCapitals := List.mem_of_find?_eq_some hfind
    have hfound := List.find?_some (p := fun ns : List Nat => ns.contains m) hfind
    have hm : m ∈ ns := List.contains_iff_mem.mp hfound
    rw [List.mem_cons]
    constructor
    · rintro (h | h)
      · exact .inl h.symm
      · exact .inr ⟨ns, hns, hm, List.mem_of_mem_erase h⟩
    · rintro (h | ⟨ns', hns', hm', hn'⟩)
      · exact .inl h.symm
      · cases sharedCapitals_unique ns hns m hm ns' hns' hm'
        by_cases hnm : n = m
        · exact .inl hnm
        · exact .inr ((List.mem_erase_of_ne hnm).mpr hn')

/-! ## Where a text stands -/

/-- `cs` stands at the offset `i` of `text`, up to `fold`. -/
structure OccursAt (fold : Fold) (cs text : List Char) (i : Nat) : Prop where
  le_length : i ≤ text.length
  alike : List.Forall₂ fold.Alike cs (Text.sliceChars text i (i + cs.length))

section OccursAt

variable {fold : Fold} {c : Char} {cs text : List Char} {i : Nat}

theorem occursAt_nil : OccursAt fold [] text i ↔ i ≤ text.length := by
  refine ⟨OccursAt.le_length, fun h => ⟨h, ?_⟩⟩
  rw [List.length_nil, Nat.add_zero, Text.sliceChars,
    List.drop_eq_nil_of_le (List.length_take_le i text)]
  exact .nil

theorem sliceChars_cons {d : Char} (h : text[i]? = some d) (n : Nat) :
    Text.sliceChars text i (i + (n + 1)) = d :: Text.sliceChars text (i + 1) (i + 1 + n) := by
  have hdrop : text.drop i = d :: text.drop (i + 1) := by
    obtain ⟨hlt, hd⟩ := List.getElem?_eq_some_iff.mp h
    rw [List.drop_eq_getElem_cons hlt, hd]
  unfold Text.sliceChars
  rw [List.drop_take, List.drop_take, hdrop, Nat.add_sub_cancel_left, Nat.add_sub_cancel_left,
    List.take_succ_cons]

/-- A text stands where its first character does and the others behind it. -/
theorem occursAt_cons : OccursAt fold (c :: cs) text i ↔
    ∃ d, text[i]? = some d ∧ fold.Alike c d ∧ OccursAt fold cs text (i + 1) := by
  constructor
  · rintro ⟨-, halike⟩
    cases hd : text[i]? with
    | none =>
      have hlen : text.length ≤ i := List.getElem?_eq_none_iff.mp hd
      rw [Text.sliceChars, List.drop_eq_nil_of_le (Nat.le_trans (List.length_take_le' _ _) hlen)]
        at halike
      cases halike
    | some d =>
      rw [List.length_cons, sliceChars_cons hd] at halike
      obtain ⟨hlt, -⟩ := List.getElem?_eq_some_iff.mp hd
      cases halike with
      | cons hc hcs => exact ⟨d, rfl, hc, hlt, hcs⟩
  · rintro ⟨d, hd, hc, -, hcs⟩
    obtain ⟨hlt, -⟩ := List.getElem?_eq_some_iff.mp hd
    refine ⟨Nat.le_of_lt hlt, ?_⟩
    rw [List.length_cons, sliceChars_cons hd]
    exact .cons hc hcs

/-- With regard to case a text stands where it is a part of the other. -/
theorem occursAt_exact_iff : OccursAt .exact cs text i ↔
    i ≤ text.length ∧ Text.sliceChars text i (i + cs.length) = cs := by
  have heq : List.Forall₂ Fold.exact.Alike cs (Text.sliceChars text i (i + cs.length)) ↔
      Text.sliceChars text i (i + cs.length) = cs := by
    rw [show Fold.exact.Alike = Eq from funext₂ fun _ _ => propext Fold.alike_exact_iff,
      List.forall₂_eq_eq_eq, eq_comm]
  exact ⟨fun h => ⟨h.le_length, heq.mp h.alike⟩, fun h => ⟨h.1, heq.mpr h.2⟩⟩

end OccursAt

namespace Regex

variable {t : Array Char}

/-! ## The first position -/

theorem searchFrom_eq_none_iff {r : Regex} {groupCount : Nat} : ∀ {n i : Nat},
    searchFrom t r groupCount n i = none ↔
      ∀ j, i ≤ j → j ≤ i + n → matchAt? t r groupCount j = none
  | 0, i => by
    rw [searchFrom]
    refine ⟨fun h j hle hge => ?_, fun h => h i (Nat.le_refl i) (Nat.le_refl i)⟩
    rwa [show j = i by omega]
  | n + 1, i => by
    rw [searchFrom]
    constructor
    · intro h j hle hge
      split at h
      · cases h
      · rename_i hnone
        obtain rfl | hlt := Nat.eq_or_lt_of_le hle
        · exact hnone
        · exact searchFrom_eq_none_iff.mp h j hlt (by omega)
    · intro h
      rw [h i (Nat.le_refl i) (by omega)]
      exact searchFrom_eq_none_iff.mpr fun j hle hge => h j (by omega) (by omega)

theorem searchFrom_eq_some_iff {r : Regex} {groupCount : Nat} {m : Match} : ∀ {n i : Nat},
    searchFrom t r groupCount n i = some m ↔
      ∃ j, i ≤ j ∧ j ≤ i + n ∧ matchAt? t r groupCount j = some m ∧
        ∀ j', i ≤ j' → j' < j → matchAt? t r groupCount j' = none
  | 0, i => by
    rw [searchFrom]
    constructor
    · exact fun h => ⟨i, Nat.le_refl i, Nat.le_refl i, h, fun j' hle hlt => by omega⟩
    · rintro ⟨j, hle, hge, h, -⟩
      rwa [show i = j by omega]
  | n + 1, i => by
    rw [searchFrom]
    constructor
    · intro h
      split at h
      · rename_i m' hm
        cases h
        exact ⟨i, Nat.le_refl i, by omega, hm, fun j' hle hlt => by omega⟩
      · rename_i hnone
        obtain ⟨j, hle, hge, hm, hbefore⟩ := searchFrom_eq_some_iff.mp h
        refine ⟨j, by omega, by omega, hm, fun j' hle' hlt => ?_⟩
        obtain rfl | hlt' := Nat.eq_or_lt_of_le hle'
        · exact hnone
        · exact hbefore j' hlt' hlt
    · rintro ⟨j, hle, hge, hm, hbefore⟩
      obtain rfl | hlt := Nat.eq_or_lt_of_le hle
      · rw [hm]
      · rw [hbefore i (Nat.le_refl i) hlt]
        exact searchFrom_eq_some_iff.mpr
          ⟨j, hlt, by omega, hm, fun j' hle' hlt' => hbefore j' (by omega) hlt'⟩

/-- **A search finds nothing** where nothing matches from its position on. -/
theorem search?_eq_none_iff {r : Regex} {groupCount start : Nat} :
    r.search? t groupCount start = none ↔
      ∀ j, min start t.size ≤ j → j ≤ t.size → matchAt? t r groupCount j = none := by
  have hend : min start t.size + (t.size - start) = t.size := by omega
  rw [search?, searchFrom_eq_none_iff, hend]

/-- **A search finds the match at the first position** that has one. -/
theorem search?_eq_some_iff {r : Regex} {groupCount start : Nat} {m : Match} :
    r.search? t groupCount start = some m ↔
      ∃ j, min start t.size ≤ j ∧ j ≤ t.size ∧ matchAt? t r groupCount j = some m ∧
        ∀ j', min start t.size ≤ j' → j' < j → matchAt? t r groupCount j' = none := by
  have hend : min start t.size + (t.size - start) = t.size := by omega
  rw [search?, searchFrom_eq_some_iff, hend]

/-- What the expression matches in the text: at each offset where `P` holds the range up to
`stop`, and nothing at the others. -/
structure MatchesAt (r : Regex) (text : List Char) (P : Nat → Prop) (stop : Nat → Nat) : Prop where
  le_length : ∀ {i}, P i → i ≤ text.length
  matchAt?_iff : ∀ {i m}, i ≤ text.length →
    (matchAt? text.toArray r 0 i = some m ↔ P i ∧ m = ⟨i, stop i, []⟩)

namespace MatchesAt

variable {r : Regex} {text : List Char} {P : Nat → Prop} {stop : Nat → Nat}

/-- An expression that runs to one end, and without groups. -/
theorem of_run (hle : ∀ {i}, P i → i ≤ text.length)
    (hrun : ∀ {i s}, i ≤ text.length →
      (r.run text.toArray some { pos := i } = some s ↔ P i ∧ s = { pos := stop i })) :
    r.MatchesAt text P stop where
  le_length := hle
  matchAt?_iff {i m} hi := by
    rw [matchAt?, Option.map_eq_some_iff]
    constructor
    · rintro ⟨s, hs, rfl⟩
      obtain ⟨hP, rfl⟩ := (hrun hi).mp hs
      exact ⟨hP, rfl⟩
    · rintro ⟨hP, rfl⟩
      exact ⟨_, (hrun hi).mpr ⟨hP, rfl⟩, rfl⟩

theorem matchAt?_eq_none_iff (h : r.MatchesAt text P stop) {i : Nat} (hi : i ≤ text.length) :
    matchAt? text.toArray r 0 i = none ↔ ¬ P i := by
  rw [Option.eq_none_iff_forall_ne_some]
  constructor
  · exact fun hnone hP => hnone _ ((h.matchAt?_iff hi).mpr ⟨hP, rfl⟩)
  · exact fun hP m hm => hP ((h.matchAt?_iff hi).mp hm).1

/-- **The search finds the first offset** that has a match. -/
theorem search?_iff (h : r.MatchesAt text P stop) {start : Nat} {m : Match} :
    r.search? text.toArray 0 start = some m ↔
      ∃ i, m = ⟨i, stop i, []⟩ ∧ min start text.length ≤ i ∧ P i ∧
        ∀ j, min start text.length ≤ j → j < i → ¬ P j := by
  rw [search?_eq_some_iff, List.size_toArray]
  constructor
  · rintro ⟨i, hstart, hi, hm, hbefore⟩
    obtain ⟨hP, rfl⟩ := (h.matchAt?_iff hi).mp hm
    exact ⟨i, rfl, hstart, hP, fun j hle hlt =>
      (h.matchAt?_eq_none_iff (Nat.le_trans (Nat.le_of_lt hlt) hi)).mp (hbefore j hle hlt)⟩
  · rintro ⟨i, rfl, hstart, hP, hbefore⟩
    have hi := h.le_length hP
    exact ⟨i, hstart, hi, (h.matchAt?_iff hi).mpr ⟨hP, rfl⟩, fun j hle hlt =>
      (h.matchAt?_eq_none_iff (Nat.le_trans (Nat.le_of_lt hlt) hi)).mpr (hbefore j hle hlt)⟩

theorem search?_eq_none_iff (h : r.MatchesAt text P stop) {start : Nat} :
    r.search? text.toArray 0 start = none ↔ ∀ i, min start text.length ≤ i → ¬ P i := by
  rw [Regex.search?_eq_none_iff, List.size_toArray]
  constructor
  · exact fun hnone i hle hP =>
      (h.matchAt?_eq_none_iff (h.le_length hP)).mp (hnone i hle (h.le_length hP)) hP
  · exact fun hP i hle hi => (h.matchAt?_eq_none_iff hi).mpr (hP i hle)

end MatchesAt

/-- What is found is the match where it begins. -/
theorem search?_iff_matchAt? {r : Regex} {groupCount start : Nat} {m : Match} :
    r.search? t groupCount start = some m ↔
      min start t.size ≤ m.start ∧ m.start ≤ t.size ∧
        matchAt? t r groupCount m.start = some m ∧
        ∀ j, min start t.size ≤ j → j < m.start → matchAt? t r groupCount j = none := by
  rw [search?_eq_some_iff]
  constructor
  · rintro ⟨j, hstart, hj, hm, hbefore⟩
    obtain ⟨rfl, -⟩ := matchAt?_bounds hj hm
    exact ⟨hstart, hj, hm, hbefore⟩
  · rintro ⟨hstart, hj, hm, hbefore⟩
    exact ⟨m.start, hstart, hj, hm, hbefore⟩

/-- What is found is found again from where it begins. -/
theorem search?_start {r : Regex} {groupCount start : Nat} {m : Match}
    (h : r.search? t groupCount start = some m) : r.search? t groupCount m.start = some m := by
  obtain ⟨-, hsize, hm, -⟩ := search?_iff_matchAt?.mp h
  exact search?_iff_matchAt?.mpr ⟨Nat.min_le_left _ _, hsize, hm, fun j hle hlt => by omega⟩

/-- Where something matches, the search finds it or something before it. -/
theorem exists_search?_of_matchAt? {r : Regex} {groupCount start j : Nat} {m : Match}
    (hstart : min start t.size ≤ j) (hj : j ≤ t.size) (h : matchAt? t r groupCount j = some m) :
    ∃ m', r.search? t groupCount start = some m' ∧ m'.start ≤ j := by
  cases hsearch : r.search? t groupCount start with
  | none => exact absurd (search?_eq_none_iff.mp hsearch j hstart hj) (by simp [h])
  | some m' =>
    refine ⟨m', rfl, Nat.not_lt.mp fun hlt => ?_⟩
    exact absurd ((search?_iff_matchAt?.mp hsearch).2.2.2 j hstart hlt) (by simp [h])

/-- Expressions that are run alike find the same. -/
theorem search?_congr {r r' : Regex} (h : r.run t = r'.run t) (groupCount start : Nat) :
    r.search? t groupCount start = r'.search? t groupCount start := by
  have hat : matchAt? t r groupCount = matchAt? t r' groupCount := by
    funext i
    unfold matchAt?
    rw [h]
  have hfrom : ∀ n i, searchFrom t r groupCount n i = searchFrom t r' groupCount n i := by
    intro n
    induction n with
    | zero => exact fun i => congrFun hat i
    | succ n ih =>
      intro i
      rw [searchFrom, searchFrom, ih, hat]
  unfold search?
  rw [hfrom]

/-! ## The expression of a text -/

/-- **The expression of a text takes the text**, and goes on behind it. -/
theorem run_literal_iff {fold : Fold} {cs text : List Char} {k : Cont} {r s : State}
    (hs : s.pos ≤ text.length) : (literal fold cs).run text.toArray k s = some r ↔
      OccursAt fold cs text s.pos ∧ k { s with pos := s.pos + cs.length } = some r := by
  induction cs generalizing s with
  | nil =>
    rw [occursAt_nil]
    exact (and_iff_right hs).symm
  | cons c cs ih =>
    rw [show literal fold (c :: cs) =
      .seq (.char (.one c.toNat false fold)) (literal fold cs) from rfl, run, run, occursAt_cons,
      List.getElem?_toArray, show s.pos + (c :: cs).length = s.pos + 1 + cs.length by
        rw [List.length_cons]; omega]
    cases hd : text[s.pos]? with
    | none =>
      constructor
      · rintro ⟨⟩
      · rintro ⟨⟨_, ⟨⟩, -⟩, -⟩
    | some d =>
      obtain ⟨hlt, -⟩ := List.getElem?_eq_some_iff.mp hd
      have hrest := ih (s := { s with pos := s.pos + 1 }) hlt
      dsimp only at hrest ⊢
      split
      · rename_i hacc
        rw [hrest]
        constructor
        · rintro ⟨h, hk⟩
          exact ⟨⟨d, rfl, CharTest.accepts_one_iff.mp hacc, h⟩, hk⟩
        · rintro ⟨⟨_, -, -, h⟩, hk⟩
          exact ⟨h, hk⟩
      · rename_i hacc
        constructor
        · rintro ⟨⟩
        · rintro ⟨⟨_, ⟨⟩, hc, -⟩, -⟩
          exact absurd (CharTest.accepts_one_iff.mpr hc) hacc

/-- **The search for a text finds the first place where it stands.** -/
theorem matchesAt_literal (fold : Fold) (cs text : List Char) :
    (literal fold cs).MatchesAt text (OccursAt fold cs text) (· + cs.length) :=
  .of_run (fun h => h.le_length) fun {i s} hi => by
    rw [run_literal_iff hi, Option.some_inj, eq_comm]

end Regex

end CiteSieve
