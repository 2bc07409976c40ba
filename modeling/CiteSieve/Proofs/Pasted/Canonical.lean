import CiteSieve.Proofs.Pasted.Operators

/-!
# Splitting is canonical

The search leaves the text as pieces with its operators between them (`Pieces`). Where the only
blanks are spaces, trimming the pieces neither uncovers an operator nor hides one. So a part is not
split again, and the parts joined by the word are split into the same parts.

* `exists_pieces`: what the search finds are the pieces of the text.
* `operatorAt_pieces_iff`: the operators between them are all there are.
* `silent_trimChars`: a trimmed piece is a stretch without operators, also among other parts.
* `splitTopLevel_canonical`: what splitting gives, and that it gives the same again.
-/

namespace CiteSieve.Pasted

/-! ## Pieces -/

/-- Operators with the pieces behind them, as they stand in a text. -/
def joined (others : List (List Char × List Char)) : List Char :=
  others.flatMap fun o => o.1 ++ o.2

@[simp] theorem joined_nil : joined [] = [] := rfl

@[simp] theorem joined_cons (o : List Char × List Char) (others : List (List Char × List Char)) :
    joined (o :: others) = o.1 ++ (o.2 ++ joined others) := by
  simp [joined]

/-- A piece and the operators and pieces behind it, of a text that is read from `r` behind `last`:
no operator begins within a piece, and one stands between any two. -/
inductive Pieces (word : List Char) :
    Reading → Option Char → List Char → List (List Char × List Char) → Prop
  | last {r last piece} (hsilent : Silent word r last piece []) : Pieces word r last piece []
  | next {r last piece op piece' others}
      (hsilent : Silent word r last piece (op ++ (piece' ++ joined others)))
      (hop : OperatorAt word r last piece op (piece' ++ joined others))
      (hpieces : Pieces word {} op.getLast? piece' others) :
      Pieces word r last piece ((op, piece') :: others)

section Pieces

variable {word : List Char} (hw : word = "AND".toList ∨ word = "OR".toList)

/-- One more character before the first piece. -/
theorem Pieces.cons {r : Reading} {last : Option Char} {c : Char} {piece : List Char}
    {others : List (List Char × List Char)} (h : Pieces word (r.next c) (some c) piece others)
    (hhere : ∀ op after, op ++ after = c :: (piece ++ joined others) →
      ¬ OperatorAt word r last [] op after) :
    Pieces word r last (c :: piece) others := by
  cases h with
  | last hsilent => exact .last (silent_cons_iff.mpr ⟨hhere, hsilent⟩)
  | next hsilent hop hpieces =>
    rw [joined_cons] at hhere
    exact .next (silent_cons_iff.mpr ⟨hhere, hsilent⟩) (operatorAt_cons_iff.mpr hop) hpieces

/-- What comes before an operator ends outside, at the end of the text or before an operator. -/
theorem Pieces.head {r : Reading} {last : Option Char} {piece : List Char}
    {others : List (List Char × List Char)} (h : Pieces word r last piece others) :
    Silent word r last piece (joined others) ∧
      (joined others = [] ∨ piece.getLast?.or last = some ' ' ∨
        piece.getLast?.or last = some ')') := by
  cases h with
  | last hsilent => exact ⟨hsilent, .inl rfl⟩
  | next hsilent hop _ => exact ⟨by rwa [joined_cons], .inr hop.left⟩

include hw

/-- **What the search finds** are the pieces of the text. -/
theorem exists_pieces (r : Reading) (last : Option Char) (cs : List Char) : ∃ others,
    (cutFrom word r last cs).2 = others.map Prod.snd ∧
      cs = (cutFrom word r last cs).1 ++ joined others ∧
      Pieces word r last (cutFrom word r last cs).1 others := by
  induction hlen : cs.length using Nat.strong_induction_on generalizing cs r last with
  | _ n ih =>
    by_cases hhere : ∃ op after, op ++ after = cs ∧ OperatorAt word r last [] op after
    · obtain ⟨op, after, rfl, hop⟩ := hhere
      have hshort : after.length < n := by
        have hpos := List.length_pos_iff.mpr (ne_nil_of_upperChars hw hop.letters)
        rw [← hlen, List.length_append]
        omega
      obtain ⟨others, hothers, hafter, hpieces⟩ := ih _ hshort {} op.getLast? after rfl
      rw [cutFrom_operator hw hop]
      dsimp only
      generalize cutFrom word {} op.getLast? after = found at hothers hafter hpieces
      refine ⟨(op, found.1) :: others, by rw [hothers]; rfl, by rw [joined_cons, ← hafter]; rfl, ?_⟩
      rw [hafter] at hop
      exact .next silent_nil hop hpieces
    · cases cs with
      | nil =>
        rw [cutFrom_nil]
        exact ⟨[], rfl, rfl, .last silent_nil⟩
      | cons c cs =>
        have hno : ∀ op after, op ++ after = c :: cs → ¬ OperatorAt word r last [] op after :=
          fun op after heq hop => hhere ⟨op, after, heq, hop⟩
        have hshort : cs.length < n := by
          rw [← hlen]
          exact Nat.lt_succ_self _
        obtain ⟨others, hothers, hcs, hpieces⟩ := ih _ hshort (r.next c) (some c) cs rfl
        rw [cutFrom_step hw hno]
        generalize cutFrom word (r.next c) (some c) cs = found at hothers hcs hpieces
        refine ⟨others, hothers, by rw [hcs]; rfl, hpieces.cons ?_⟩
        rwa [← hcs]

/-- Behind the letters of an operator a reader is outside again, as if the text began there. -/
theorem operatorAt_behind_operator {r : Reading} {last : Option Char}
    {piece op₀ before op after : List Char} (houtside : r.behind piece = {})
    (hletters : Text.upperChars op₀ = word) :
    OperatorAt word r last (piece ++ (op₀ ++ before)) op after ↔
      OperatorAt word {} op₀.getLast? before op after := by
  have hplain := isPlain_of_upperChars hw hletters
  have hlast : op₀.getLast?.or (piece.getLast?.or last) = op₀.getLast? :=
    Option.or_of_isSome (List.getLast?_isSome.mpr (ne_nil_of_upperChars hw hletters))
  rw [operatorAt_append_iff, operatorAt_append_iff, houtside, hlast,
    Reading.behind_of_isPlain fun c hc => (hplain c hc).1]

/-- **The operators between the pieces** are all that the text holds. -/
theorem operatorAt_pieces_iff {r : Reading} {last : Option Char} {piece : List Char}
    {others : List (List Char × List Char)} (h : Pieces word r last piece others)
    (before op after : List Char) :
    before ++ (op ++ after) = piece ++ joined others ∧ OperatorAt word r last before op after ↔
      ∃ xs next ys, others = xs ++ (op, next) :: ys ∧ before = piece ++ joined xs ∧
        after = next ++ joined ys := by
  induction h generalizing before with
  | @last r last piece hsilent =>
    constructor
    · rintro ⟨heq, hop⟩
      have hlen := congrArg List.length heq
      have hpos := List.length_pos_iff.mpr (ne_nil_of_upperChars hw hop.letters)
      simp only [List.length_append, joined_nil, List.length_nil] at hlen
      exact absurd hop (hsilent before op after (by omega) heq)
    · rintro ⟨xs, next, ys, hnil, -⟩
      exact absurd hnil (by simp)
  | @next r last piece op₀ piece' others hsilent hop₀ _ ih =>
    rw [joined_cons]
    dsimp only
    constructor
    · rintro ⟨heq, hop⟩
      -- Not within the first piece, so behind it.
      have hle : piece.length ≤ before.length :=
        Nat.not_lt.mp fun hlt => hsilent before op after hlt heq hop
      obtain ⟨x, rfl⟩ : piece <+: before :=
        List.prefix_of_prefix_length_le ⟨_, heq.symm⟩ (List.prefix_append before _) hle
      rw [List.append_assoc, List.append_cancel_left_eq] at heq
      have hlen : op.length = op₀.length :=
        (length_of_upperChars hw hop.letters).trans (length_of_upperChars hw hop₀.letters).symm
      by_cases hx : x.length < op₀.length
      · -- Between the letters of an operator none begins.
        have hpre : x <+: op₀ :=
          List.prefix_of_prefix_length_le ⟨_, heq⟩ (List.prefix_append op₀ _) (by omega)
        cases hnil : x.getLast? with
        | none =>
          obtain rfl := List.getLast?_eq_none_iff.mp hnil
          rw [List.nil_append] at heq
          obtain ⟨rfl, rfl⟩ := List.append_inj heq hlen
          exact ⟨[], piece', others, rfl, rfl, rfl⟩
        | some c =>
          have hc : c ∈ op₀ := hpre.subset (List.mem_of_getLast? hnil)
          have hleft := hop.left
          rw [List.getLast?_append, hnil, Option.some_or, Option.some_or, Option.some_inj,
            Option.some_inj] at hleft
          exact absurd hleft (ne_of_mem_operator hw hop₀.letters hc).1
      · obtain ⟨b, rfl⟩ : op₀ <+: x :=
          List.prefix_of_prefix_length_le ⟨_, heq.symm⟩ (List.prefix_append x _) (by omega)
        rw [List.append_assoc, List.append_cancel_left_eq] at heq
        rw [operatorAt_behind_operator hw hop₀.outside hop₀.letters] at hop
        obtain ⟨xs, next, ys, rfl, rfl, rfl⟩ := (ih b).mp ⟨heq, hop⟩
        exact ⟨(op₀, piece') :: xs, next, ys, rfl, by simp, rfl⟩
    · rintro ⟨xs, next, ys, hothers, rfl, rfl⟩
      cases xs with
      | nil =>
        obtain ⟨⟨rfl, rfl⟩, rfl⟩ := by simpa using hothers
        rw [joined_nil, List.append_nil]
        exact ⟨rfl, hop₀⟩
      | cons o xs =>
        obtain ⟨rfl, rfl⟩ := List.cons.inj hothers
        obtain ⟨heq, hop⟩ := (ih (piece' ++ joined xs)).mpr ⟨xs, next, ys, rfl, rfl, rfl⟩
        rw [joined_cons, operatorAt_behind_operator hw hop₀.outside hop₀.letters]
        refine ⟨?_, hop⟩
        simp only [List.append_assoc] at heq ⊢
        rw [heq]

end Pieces

/-! ## Spaces -/

namespace Reading

/-- A space is no quote, so it leaves the nesting as it is. -/
theorem nesting_next_space {r : Reading} (h : r.nesting.quote ≠ some ' ') :
    (r.next ' ').nesting = r.nesting := by
  obtain ⟨⟨depth, quote⟩, hidden⟩ := r
  cases hidden with
  | true => rfl
  | false =>
    cases quote with
    | none => rfl
    | some q =>
      have hq : ' ' ≠ q := fun hq => h (by rw [hq])
      simp [next, Nesting.next, hq]

theorem nesting_behind_spaces {r : Reading} (h : r.nesting.quote ≠ some ' ') (n : Nat) :
    (r.behind (List.replicate n ' ')).nesting = r.nesting := by
  induction n generalizing r with
  | zero => rfl
  | succ n ih =>
    have hnext := nesting_next_space h
    rw [List.replicate_succ, behind_cons, ih (by rwa [hnext]), hnext]

theorem quote_next_ne {r : Reading} (h : r.nesting.quote ≠ some ' ') (c : Char) :
    (r.next c).nesting.quote ≠ some ' ' := by
  unfold next
  split
  · exact h
  split
  · exact h
  unfold Nesting.next
  split
  · split
    · exact nofun
    · exact h
  · split
    · rename_i hquote
      rintro hc
      obtain rfl := Option.some.inj hc
      exact absurd hquote (by decide)
    · repeat' split
      all_goals exact h

/-- No text opens a quotation that a space closes. -/
theorem quote_behind_ne (cs : List Char) {r : Reading} (h : r.nesting.quote ≠ some ' ') :
    (r.behind cs).nesting.quote ≠ some ' ' := by
  induction cs generalizing r with
  | nil => exact h
  | cons c cs ih => exact ih (quote_next_ne h c)

/-- Spaces before a text that is read from the outside make no difference. -/
theorem behind_spaces (n : Nat) : ({} : Reading).behind (List.replicate n ' ') = {} := by
  refine behind_of_isPlain fun c hc => ?_
  obtain rfl := List.eq_of_mem_replicate hc
  decide

end Reading

/-- The only blanks of the text are spaces. -/
def OnlySpaces (cs : List Char) : Prop :=
  ∀ c ∈ cs, Text.isBlank c = true → c = ' '

instance (cs : List Char) : Decidable (OnlySpaces cs) :=
  inferInstanceAs (Decidable (∀ c ∈ cs, Text.isBlank c = true → c = ' '))

theorem onlySpaces_append_iff {as bs : List Char} :
    OnlySpaces (as ++ bs) ↔ OnlySpaces as ∧ OnlySpaces bs :=
  List.forall_mem_append

/-- Where a piece ends outside, so it does without the spaces at its ends; a backslash may then be
its last character. -/
theorem nesting_behind_trimChars {piece : List Char} (hblank : OnlySpaces piece)
    (h : ({} : Reading).behind piece = {}) :
    (({} : Reading).behind (Text.trimChars piece)).nesting = {} := by
  obtain ⟨m, n, hpiece⟩ := Text.exists_eq_append_trimChars hblank
  rw [hpiece, Reading.behind_append, Reading.behind_spaces, Reading.behind_append] at h
  have hquote := Reading.quote_behind_ne (Text.trimChars piece) (r := {}) nofun
  rw [← Reading.nesting_behind_spaces hquote n, h]

/-! ## Trimmed pieces -/

section Trimmed

variable {word : List Char} (hw : word = "AND".toList ∨ word = "OR".toList)

include hw

/-- An operator that begins within a text before a space or the end is all within it. -/
theorem exists_eq_append_operator {op before after cs tail : List Char}
    (hletters : Text.upperChars op = word) (htail : ∀ c ∈ tail.head?, c = ' ')
    (hlt : before.length < cs.length) (heq : before ++ (op ++ after) = cs ++ tail) :
    ∃ y, cs = before ++ (op ++ y) ∧ after = y ++ tail := by
  obtain ⟨z, rfl⟩ : before <+: cs :=
    List.prefix_of_prefix_length_le ⟨_, heq⟩ (List.prefix_append cs tail) (by omega)
  rw [List.append_assoc, List.append_cancel_left_eq] at heq
  rcases List.append_eq_append_iff.mp heq with ⟨y, rfl, rfl⟩ | ⟨x, rfl, rfl⟩
  · exact ⟨y, rfl, rfl⟩
  · -- What the operator has of the tail would begin with a space.
    cases x with
    | nil => exact ⟨[], by simp, by simp⟩
    | cons c x =>
      obtain rfl : c = ' ' := htail c rfl
      have hmem : ' ' ∈ z ++ ' ' :: x := by simp
      exact absurd (.inl rfl) (ne_of_mem_operator hw hletters hmem).1

/-- **A trimmed piece is a stretch without operators**, at the start of a text and, if a space or
an opening parenthesis is its first character, behind a separator. What trimming takes away on the
left counts as little as a space there, and on the right no more than the end or a space. -/
theorem silent_trimChars {last last' : Option Char} {piece rest tail : List Char}
    (hblank : OnlySpaces piece) (h : Silent word {} last piece rest)
    (hend : rest = [] ∨ piece.getLast?.or last = some ' ' ∨ piece.getLast?.or last = some ')')
    (hstart : last' = none ∨ last' = some ' ' ∧ ∀ c ∈ piece.head?, c = ' ' ∨ c = '(')
    (htail : ∀ c ∈ tail.head?, c = ' ') : Silent word {} last' (Text.trimChars piece) tail := by
  intro before op after hlt heq hop
  obtain ⟨y, htrim, rfl⟩ := exists_eq_append_operator hw hop.letters htail hlt heq
  obtain ⟨m, n, hpiece⟩ := Text.exists_eq_append_trimChars hblank
  rw [htrim] at hpiece
  have hne := ne_nil_of_upperChars hw hop.letters
  refine h (List.replicate m ' ' ++ before) op (y ++ (List.replicate n ' ' ++ rest)) ?inside ?text
    ⟨hop.letters, ?outside, ?left, ?right⟩
  case inside =>
    have hpos := List.length_pos_iff.mpr hne
    rw [hpiece]
    simp only [List.length_append]
    omega
  case text =>
    rw [hpiece]
    simp only [List.append_assoc]
  case outside =>
    rw [Reading.behind_append, Reading.behind_spaces]
    exact hop.outside
  case left =>
    have hleft := hop.left
    rw [List.getLast?_append]
    cases hlast : before.getLast? with
    | some c =>
      rw [hlast] at hleft
      exact hleft
    | none =>
      obtain rfl := List.getLast?_eq_none_iff.mp hlast
      rcases hstart with rfl | ⟨rfl, hstart⟩
      · rcases hleft with hleft | hleft <;> exact nomatch hleft
      · cases m with
        | zero =>
          -- The piece would begin with the letters of the operator.
          cases op with
          | nil => exact absurd rfl hne
          | cons c op =>
            refine absurd (hstart c ?_) (ne_of_mem_operator hw hop.letters List.mem_cons_self).2
            rw [hpiece]
            rfl
        | succ m =>
          left
          rw [List.replicate_succ', List.getLast?_concat]
          rfl
  case right =>
    cases y with
    | cons c y => exact hop.right
    | nil =>
      cases n with
      | succ n => exact fun c hc => .inl (Option.some.inj hc).symm
      | zero =>
        rcases hend with rfl | hend
        · exact fun c hc => nomatch hc
        · -- The last character before an operator is none of its letters.
          obtain ⟨c, hc⟩ := Option.isSome_iff_exists.mp (List.getLast?_isSome.mpr hne)
          rw [hpiece] at hend
          simp only [List.append_nil, List.replicate_zero, List.getLast?_append, hc, Option.some_or,
            Option.some_inj] at hend
          exact absurd hend (ne_of_mem_operator hw hop.letters (List.mem_of_getLast? hc)).1

end Trimmed

/-! ## Parts -/

/-- The parts that pieces are: trimmed, and without empty ones. -/
def partsOf (pieces : List (List Char)) : List (List Char) :=
  (pieces.map Text.trimChars).filter (· ≠ [])

theorem partsOf_cons (piece : List Char) (pieces : List (List Char)) : partsOf (piece :: pieces) =
    if Text.trimChars piece = [] then partsOf pieces
    else Text.trimChars piece :: partsOf pieces := by
  by_cases h : Text.trimChars piece = [] <;> simp [partsOf, h]

theorem splitTopLevel_eq_partsOf (cs word : List Char) : splitTopLevel cs word =
    partsOf ((cutFrom word {} none cs).1 :: (cutFrom word {} none cs).2) :=
  rfl

section Parts

variable {word : List Char} (hw : word = "AND".toList ∨ word = "OR".toList)

include hw

/-- Before a space it does not matter whether a backslash hides it. -/
theorem cutFrom_space (hidden : Bool) (last : Option Char) (cs : List Char) :
    cutFrom word ⟨{}, hidden⟩ last (' ' :: cs) = behind [' '] (cutFrom word {} (some ' ') cs) := by
  refine (cutFrom_step hw fun op after heq hop => ?_).trans ?_
  · cases op with
    | nil => exact ne_nil_of_upperChars hw hop.letters rfl
    | cons c op =>
      obtain rfl := (List.cons.inj heq).1
      exact absurd (.inl rfl) (ne_of_mem_operator hw hop.letters List.mem_cons_self).1
  · cases hidden <;> rfl

/-- Each part is a stretch without operators. -/
theorem silent_of_mem_partsOf : ∀ {others : List (List Char × List Char)} {last : Option Char}
    {piece part : List Char}, Pieces word {} last piece others →
    OnlySpaces (piece ++ joined others) → part ∈ partsOf (piece :: others.map Prod.snd) →
    Silent word {} none part []
  | others, last, piece, part, hpieces, hblank, hmem => by
    obtain ⟨hpiece, hrest⟩ := onlySpaces_append_iff.mp hblank
    obtain ⟨hsilent, hend⟩ := hpieces.head
    have hhead : Silent word {} none (Text.trimChars piece) [] :=
      silent_trimChars hw hpiece hsilent hend (.inl rfl) nofun
    rw [partsOf_cons] at hmem
    have htail : part ∈ partsOf (others.map Prod.snd) → Silent word {} none part [] := by
      intro hmem
      cases hpieces with
      | last => exact absurd hmem List.not_mem_nil
      | next _ _ hpieces =>
        rw [joined_cons] at hrest
        exact silent_of_mem_partsOf hpieces (onlySpaces_append_iff.mp hrest).2 hmem
    split at hmem
    · exact htail hmem
    · rcases List.mem_cons.mp hmem with rfl | hmem
      · exact hhead
      · exact htail hmem

/-- **The parts can be joined again**: at the start of a text and behind a separator. -/
theorem joins_partsOf : ∀ {others : List (List Char × List Char)} {last last' : Option Char}
    {piece : List Char}, Pieces word {} last piece others → OnlySpaces (piece ++ joined others) →
    (last' = none ∨ last' = some ' ' ∧ ∀ c ∈ piece.head?, c = ' ' ∨ c = '(') →
    Joins word last' (partsOf (piece :: others.map Prod.snd))
  | others, last, last', piece, hpieces, hblank, hstart => by
    obtain ⟨hpiece, hrest⟩ := onlySpaces_append_iff.mp hblank
    obtain ⟨hsilent, hend⟩ := hpieces.head
    have htrimmed : ∀ tail, (∀ c ∈ tail.head?, c = ' ') →
        Silent word {} last' (Text.trimChars piece) tail :=
      fun tail => silent_trimChars hw hpiece hsilent hend hstart
    have htrim := Text.isTrimmed_trimChars piece
    rw [partsOf_cons]
    cases hpieces with
    | last =>
      split
      · exact .nil
      · exact .single htrim (cut_of_silent hw (htrimmed [] nofun))
    | @next _ _ _ op next others _ hop hpieces =>
      rw [joined_cons] at hrest
      have hothers := (onlySpaces_append_iff.mp hrest).2
      have hnext : ∀ c ∈ next.head?, c = ' ' ∨ c = '(' := by
        intro c hc
        refine hop.right c ?_
        rw [List.head?_append, show next.head? = some c from hc]
        rfl
      split
      · -- Nothing is left of the piece, so the next one takes its place.
        exact joins_partsOf hpieces hothers (hstart.imp_right fun h => ⟨h.1, hnext⟩)
      · have hjoins := joins_partsOf hpieces hothers (.inr ⟨rfl, hnext⟩)
        rw [List.map_cons]
        cases hparts : partsOf (next :: others.map Prod.snd) with
        | nil => exact .single htrim (cut_of_silent hw (htrimmed [] nofun))
        | cons part parts =>
          rw [hparts] at hjoins
          refine .cons htrim (fun rest => ⟨none, ?_⟩) hjoins
          have hnesting := nesting_behind_trimChars hpiece hop.outside
          have hcut := cutFrom_of_silent hw (htrimmed (separator word ++ rest) fun c hc =>
            (Option.some.inj hc).symm)
          refine hcut.trans (congrArg (behind _) ?_)
          generalize Reading.behind {} (Text.trimChars piece) = r at hnesting
          obtain ⟨n, hidden⟩ := r
          obtain rfl : n = {} := hnesting
          exact (cutFrom_space hw hidden _ _).trans (cutFrom_space hw false none _).symm

/-- **Splitting is canonical.** Where the only blanks are spaces, the parts are trimmed and not
empty, a part is not split again, and the parts joined by the word are split into the same parts.
The text is its pieces, which are the parts and the spaces around them, with the operators between
them; and these operators are all the places where the word stands as one. -/
theorem splitTopLevel_canonical {cs : List Char} (hblank : OnlySpaces cs) :
    (∀ part ∈ splitTopLevel cs word,
      part ≠ [] ∧ Text.IsTrimmed part ∧ splitTopLevel part word = [part]) ∧
    splitTopLevel ((separator word).intercalate (splitTopLevel cs word)) word =
      splitTopLevel cs word ∧
    ∃ first others, cs = first ++ joined others ∧
      splitTopLevel cs word = partsOf (first :: others.map Prod.snd) ∧
      (∀ piece ∈ first :: others.map Prod.snd, ∃ m n,
        piece = List.replicate m ' ' ++ (Text.trimChars piece ++ List.replicate n ' ')) ∧
      ∀ before op after,
        before ++ (op ++ after) = cs ∧ OperatorAt word {} none before op after ↔
          ∃ xs next ys, others = xs ++ (op, next) :: ys ∧ before = first ++ joined xs ∧
            after = next ++ joined ys := by
  obtain ⟨others, hothers, hcs, hpieces⟩ := exists_pieces hw {} none cs
  have hparts := splitTopLevel_eq_partsOf cs word
  rw [hothers] at hparts
  generalize (cutFrom word {} none cs).1 = first at hcs hpieces hparts
  rw [hcs] at hblank
  have hpart : ∀ part ∈ splitTopLevel cs word, part ≠ [] ∧ Text.IsTrimmed part := by
    intro part hmem
    rw [hparts] at hmem
    obtain ⟨hmem, hne⟩ := List.mem_filter.mp hmem
    obtain ⟨piece, -, rfl⟩ := List.mem_map.mp hmem
    exact ⟨of_decide_eq_true hne, Text.isTrimmed_trimChars piece⟩
  refine ⟨fun part hmem => ?_, ?_, first, others, hcs, hparts, ?_, ?_⟩
  · obtain ⟨hne, htrim⟩ := hpart part hmem
    rw [hparts] at hmem
    exact ⟨hne, htrim,
      splitTopLevel_of_silent hw (silent_of_mem_partsOf hw hpieces hblank hmem) hne htrim⟩
  · refine splitTopLevel_of_joins (isWord_of hw) ?_ fun part hmem => (hpart part hmem).1
    rw [hparts]
    exact joins_partsOf hw hpieces hblank (.inl rfl)
  · intro piece hmem
    refine Text.exists_eq_append_trimChars fun c hc => hblank c ?_
    rcases List.mem_cons.mp hmem with rfl | hmem
    · exact List.mem_append_left _ hc
    · obtain ⟨o, ho, rfl⟩ := List.mem_map.mp hmem
      exact List.mem_append_right _ (List.mem_flatMap.mpr ⟨o, ho, List.mem_append_right _ hc⟩)
  · rw [hcs]
    exact operatorAt_pieces_iff hw hpieces

end Parts

/-- Operators at both ends and two in a row, an escaped space before one, one in quotes, and a
parenthesis that closes nothing. -/
def raggedText : List Char :=
  " and a) And b\\ AND AND x 'p AND q' AND(c AND d) and \"e\\\" f \" AND".toList

def raggedParts : List (List Char) :=
  ["a)", "b\\", "x 'p AND q'", "(c AND d)", "\"e\\\" f \""].map String.toList

theorem splitTopLevel_raggedText : OnlySpaces raggedText ∧
    splitTopLevel raggedText "AND".toList = raggedParts ∧
      splitTopLevel ((separator "AND".toList).intercalate raggedParts) "AND".toList = raggedParts ∧
      ∀ part ∈ raggedParts, splitTopLevel part "AND".toList = [part] := by
  have hblank : OnlySpaces raggedText := by decide
  have hsplit : splitTopLevel raggedText "AND".toList = raggedParts := by decide
  obtain ⟨hparts, hrejoined, -⟩ := splitTopLevel_canonical (.inl rfl) hblank
  rw [hsplit] at hparts hrejoined
  exact ⟨hblank, hsplit, hrejoined, fun part hmem => (hparts part hmem).2.2⟩

end CiteSieve.Pasted
