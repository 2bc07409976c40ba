/-!
# Similar words

How much two words have in common: the longest run of characters that stands in both, and, on
either side of it, what the parts have in common in turn. Of several longest runs the first one
in the first word counts, then the first one in the second.

* `nearest`: the words that are most like a given one.
-/

namespace CiteSieve.Text

/-! ## Common characters -/

/-- How many characters two words begin with in common. -/
def commonStart : List Char → List Char → Nat
  | a :: as, b :: bs => if a = b then commonStart as bs + 1 else 0
  | _, _ => 0

/-- A run of characters that stands in two words. -/
structure CommonRun where
  first : Nat := 0
  second : Nat := 0
  length : Nat := 0
  deriving DecidableEq, Repr

/-- The longest run that stands in both words. -/
def longestRun (as bs : List Char) : CommonRun :=
  let runs := (List.range as.length).flatMap fun i =>
    (List.range bs.length).map fun j => ⟨i, j, commonStart (as.drop i) (bs.drop j)⟩
  runs.foldl (fun best r => if best.length < r.length then r else best) {}

/-- How many characters two words have in common; the first one has at most `fuel`. -/
def commonWithin : (fuel : Nat) → List Char → List Char → Nat
  | 0, _, _ => 0
  | fuel + 1, as, bs =>
    let r := longestRun as bs
    if r.length = 0 then 0
    else
      commonWithin fuel (as.take r.first) (bs.take r.second) + r.length +
        commonWithin fuel (as.drop (r.first + r.length)) (bs.drop (r.second + r.length))

/-- How many characters two words have in common. -/
def commonCount (s t : String) : Nat :=
  commonWithin s.length s.toList t.toList

/-! ## Nearest words -/

/-- A word with what it has in common with another one, and the length of both. -/
structure Likeness where
  word : String
  common : Nat
  total : Nat
  deriving DecidableEq, Repr

/-- At least six in ten characters are common. -/
def Likeness.isClose (l : Likeness) : Bool :=
  6 * l.total ≤ 20 * l.common

/-- `a` is more alike than `b`; of equals, the greater word comes first. -/
def Likeness.comesFirst (a b : Likeness) : Bool :=
  b.common * a.total < a.common * b.total ||
    (b.common * a.total == a.common * b.total && !decide (a.word < b.word))

/-- At most three of the candidates that are like the word, most alike first. -/
def nearest (word : String) (candidates : List String) : List String :=
  let close := (candidates.map fun c =>
    (⟨c, commonCount c word, c.length + word.length⟩ : Likeness)).filter Likeness.isClose
  ((close.mergeSort Likeness.comesFirst).take 3).map Likeness.word

end CiteSieve.Text
