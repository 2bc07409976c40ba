import CiteSieve.Regex.Basic

/-!
# Matching

`Regex.run t r k s` matches `r` in the text `t` from the state `s` and goes on with `k`; when `k`
fails, the next way to match `r` is tried. The order of the ways is that of a backtracking
matcher: first alternatives first, greedy repetitions longest first, lazy ones shortest first.
A repetition does not begin an optional round where its last optional round began, so a round
that consumes nothing is taken at most once.

`search?` finds the first position at which the expression matches.
-/

namespace CiteSieve

/-! ## Conditions on positions -/

/-- A word character stands at `i`. -/
def wordAt (t : Array Char) (ascii : Bool) (i : Nat) : Bool :=
  match t[i]? with
  | some c => if ascii then Text.isAsciiWord c else Text.isWord c
  | none => false

/-- A word character stands before `i`. -/
def wordBefore (t : Array Char) (ascii : Bool) : Nat → Bool
  | 0 => false
  | i + 1 => wordAt t ascii i

/-- Exactly one side of `i` is a word character. -/
def isEdge (t : Array Char) (ascii : Bool) (i : Nat) : Bool :=
  wordBefore t ascii i != wordAt t ascii i

/-- The condition holds at `i`. -/
def Anchor.holds (t : Array Char) (i : Nat) : Anchor → Bool
  | .textStart => i == 0
  | .lineStart => i == 0 || t[i - 1]? == some '\n'
  | .textEnd => i == t.size
  | .lineEnd => i == t.size || t[i]? == some '\n'
  | .lastLineEnd => i == t.size || (i + 1 == t.size && t[i]? == some '\n')
  | .wordEdge ascii negated => t.size != 0 && (isEdge t ascii i != negated)

namespace Regex

/-! ## State -/

/-- A position, with the places where groups were last opened and closed, newest first. -/
structure State where
  pos : Nat
  opened : List (Nat × Nat) := []
  closed : List (Nat × Nat) := []
  deriving DecidableEq, Repr

/-- The span of the group, once it has been closed after it was last opened. -/
def State.span? (s : State) (index : Nat) : Option (Nat × Nat) := do
  let a ← s.opened.lookup index
  let b ← s.closed.lookup index
  if a ≤ b then some (a, b) else none

def State.openGroup (s : State) (index : Nat) : State :=
  { s with opened := (index, s.pos) :: s.opened }

def State.closeGroup (s : State) (index : Nat) : State :=
  { s with closed := (index, s.pos) :: s.closed }

/-- What is left to do once an expression has matched. -/
abbrev Cont := State → Option State

/-! ## Repetitions -/

/-- One more round is allowed after `n`. -/
def mayGoOn (n : Nat) : Option Nat → Bool
  | none => true
  | some most => n < most

/-- Longest first. `n` rounds are done; `last` is where the last optional one began. -/
def greedyFrom (body : Cont → Cont) (least : Nat) (most : Option Nat) (k : Cont) :
    (fuel n : Nat) → (last : Option Nat) → Cont
  | 0, _, _, _ => none
  | fuel + 1, n, last, s =>
    if n < least then body (greedyFrom body least most k fuel (n + 1) last) s
    else if mayGoOn n most && last != some s.pos then
      match body (greedyFrom body least most k fuel (n + 1) (some s.pos)) s with
      | some r => some r
      | none => k s
    else k s

/-- Shortest first. -/
def lazyFrom (body : Cont → Cont) (least : Nat) (most : Option Nat) (k : Cont) :
    (fuel n : Nat) → (last : Option Nat) → Cont
  | 0, _, _, _ => none
  | fuel + 1, n, last, s =>
    if n < least then body (lazyFrom body least most k fuel (n + 1) last) s
    else
      match k s with
      | some r => some r
      | none =>
        if mayGoOn n most && last != some s.pos then
          body (lazyFrom body least most k fuel (n + 1) (some s.pos)) s
        else none

/-- As many rounds as there are, each one settled before the next. -/
def possessiveFrom (body : Cont → Cont) (least : Nat) (most : Option Nat) :
    (fuel n : Nat) → (last : Option Nat) → Cont
  | 0, _, _, _ => none
  | fuel + 1, n, last, s =>
    if n < least then
      match body some s with
      | some s' => possessiveFrom body least most fuel (n + 1) last s'
      | none => none
    else if mayGoOn n most && last != some s.pos then
      match body some s with
      | some s' => possessiveFrom body least most fuel (n + 1) (some s.pos) s'
      | none => some s
    else some s

/-- More rounds than any repetition makes: optional rounds begin at different positions. -/
def roundLimit (t : Array Char) (least : Nat) : Nat :=
  least + t.size + 2

/-! ## Expressions -/

/-- The text from `a` to `b` stands again at `pos`. -/
def repeatsAt (t : Array Char) (fold : Fold) (a b pos : Nat) : Bool :=
  pos + (b - a) ≤ t.size &&
    (List.range (b - a)).all fun j =>
      (t[a + j]?.map fun c => fold.key c.toNat) == (t[pos + j]?.map fun c => fold.key c.toNat)

/-- Match `r` from `s` in every way, best first, until `k` succeeds. -/
def run (t : Array Char) : Regex → Cont → Cont
  | .empty, k, s => k s
  | .char test, k, s =>
    match t[s.pos]? with
    | some c => if test.accepts c then k { s with pos := s.pos + 1 } else none
    | none => none
  | .anchor a, k, s => if a.holds t s.pos then k s else none
  | .seq a b, k, s => a.run t (b.run t k) s
  | .alt a b, k, s =>
    match a.run t k s with
    | some r => some r
    | none => b.run t k s
  | .repeat .greedy least most body, k, s =>
    greedyFrom (body.run t) least most k (roundLimit t least) 0 none s
  | .repeat .lazy least most body, k, s =>
    lazyFrom (body.run t) least most k (roundLimit t least) 0 none s
  | .repeat .possessive least most body, k, s =>
    match possessiveFrom (body.run t) least most (roundLimit t least) 0 none s with
    | some s' => k s'
    | none => none
  | .group index body, k, s =>
    body.run t (fun s' => k (s'.closeGroup index)) (s.openGroup index)
  | .backref index fold, k, s =>
    match s.span? index with
    | some (a, b) =>
      if repeatsAt t fold a b s.pos then k { s with pos := s.pos + (b - a) } else none
    | none => none
  | .ahead false body, k, s =>
    match body.run t some s with
    | some s' => k { s' with pos := s.pos }
    | none => none
  | .ahead true body, k, s =>
    match body.run t some s with
    | some _ => none
    | none => k s
  | .behind false back body, k, s =>
    if back ≤ s.pos then
      match body.run t some { s with pos := s.pos - back } with
      | some s' => k { s' with pos := s.pos }
      | none => none
    else none
  | .behind true back body, k, s =>
    if back ≤ s.pos then
      match body.run t some { s with pos := s.pos - back } with
      | some _ => none
      | none => k s
    else k s
  | .atomic body, k, s =>
    match body.run t some s with
    | some s' => k s'
    | none => none
  | .ifGroup index yes no, k, s =>
    if (s.span? index).isSome then yes.run t k s else no.run t k s

/-! ## Searching -/

/-- A match: its span, and the spans of the groups from the first on. -/
structure Match where
  start : Nat
  stop : Nat
  groups : List (Option (Nat × Nat)) := []
  deriving DecidableEq, Repr

/-- The best match that begins at `i`. -/
def matchAt? (t : Array Char) (r : Regex) (groupCount i : Nat) : Option Match :=
  (r.run t some { pos := i }).map fun s =>
    ⟨i, s.pos, (List.range groupCount).map fun g => s.span? (g + 1)⟩

/-- The best match at the first position from `i` on, at most `n` positions further, that has
one. -/
def searchFrom (t : Array Char) (r : Regex) (groupCount : Nat) : (n i : Nat) → Option Match
  | 0, i => matchAt? t r groupCount i
  | n + 1, i =>
    match matchAt? t r groupCount i with
    | some m => some m
    | none => searchFrom t r groupCount n (i + 1)

/-- The first match from `start` on, or at the end of the text if that comes before `start`. -/
def search? (t : Array Char) (r : Regex) (groupCount start : Nat) : Option Match :=
  searchFrom t r groupCount (t.size - start) (min start t.size)

end Regex

end CiteSieve
