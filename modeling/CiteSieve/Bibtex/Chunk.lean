import CiteSieve.Bibtex.Header

/-!
# The extent of an entry

An entry goes on to the brace that closes its header's brace. Braces nest; at the outermost level
a double quote opens or closes a quoted value, in which a closing brace counts for nothing; a
backslash hides the character after it. An entry that is never closed ends before the next
header.

* `closeChunk`: what stands before the closing brace and after it.
* `untilHeader`: what stands before the next header, and the text from it on.
-/

namespace CiteSieve.Bibtex

/-- Split before and after the brace that closes the level, which is `depth` levels up;
`inQuote` says that a quoted value is open at the outermost level, which has `depth = 0`. -/
def closeChunk : (depth : Nat) → (inQuote : Bool) → List Char → Option (List Char × List Char)
  | _, _, [] => none
  | _, _, ['\\'] => none
  | depth, inQuote, '\\' :: c :: cs =>
    (closeChunk depth inQuote cs).map fun (body, rest) => ('\\' :: c :: body, rest)
  | 0, inQuote, c :: cs =>
    if c = '\x7d' ∧ inQuote = false then some ([], cs)
    else
      (if c = '\x7b' then closeChunk 1 inQuote cs
        else closeChunk 0 (if c = '"' then !inQuote else inQuote) cs).map
        fun (body, rest) => (c :: body, rest)
  | depth + 1, inQuote, c :: cs =>
    (closeChunk (if c = '\x7b' then depth + 2 else if c = '\x7d' then depth else depth + 1)
      inQuote cs).map fun (body, rest) => (c :: body, rest)

/-- Split before the next header, at the end if there is none. -/
def untilHeader : List Char → List Char × List Char
  | [] => ([], [])
  | c :: cs =>
    if (header? (c :: cs)).isSome then ([], c :: cs)
    else
      let (body, rest) := untilHeader cs
      (c :: body, rest)

/-! ## Nothing is lost -/

theorem eq_of_closeChunk {depth : Nat} {q : Bool} {cs body rest : List Char}
    (h : closeChunk depth q cs = some (body, rest)) : cs = body ++ '\x7d' :: rest := by
  fun_induction closeChunk depth q cs generalizing body rest with
  | case1 => simp at h
  | case2 => simp at h
  | case3 d q c cs ih =>
    obtain ⟨⟨b, r⟩, hb, he⟩ := Option.map_eq_some_iff.mp h
    simp only [Prod.mk.injEq] at he
    obtain ⟨rfl, rfl⟩ := he
    simp [ih hb]
  | case4 q c cs _ _ hc =>
    simp only [Option.some.injEq, Prod.mk.injEq] at h
    obtain ⟨rfl, rfl⟩ := h
    simp [hc.1]
  | case5 q c cs _ _ _ ih₁ ih₂ =>
    obtain ⟨⟨b, r⟩, hb, he⟩ := Option.map_eq_some_iff.mp h
    simp only [Prod.mk.injEq] at he
    obtain ⟨rfl, rfl⟩ := he
    by_cases hc' : c = '\x7b'
    · simp only [hc', if_true] at hb
      simp [ih₁ hb]
    · simp only [hc', if_false] at hb
      simp [ih₂ hb]
  | case6 d q c cs _ _ ih =>
    obtain ⟨⟨b, r⟩, hb, he⟩ := Option.map_eq_some_iff.mp h
    simp only [Prod.mk.injEq] at he
    obtain ⟨rfl, rfl⟩ := he
    simp [ih hb]

theorem untilHeader_append (cs : List Char) :
    (untilHeader cs).1 ++ (untilHeader cs).2 = cs := by
  induction cs with
  | nil => rfl
  | cons c cs ih =>
    unfold untilHeader
    split
    · rfl
    · simp [ih]

/-! ## By offset -/

/-- The offset of the brace that closes an entry whose header ends at `start`. -/
def chunkEnd? (cs : List Char) (start : Nat) : Option Nat :=
  (closeChunk 0 false (cs.drop start)).map fun (body, _) => start + body.length

/-- The offset of the next header from `start` on, or the end. -/
def recoverEnd (cs : List Char) (start : Nat) : Nat :=
  min start cs.length + (untilHeader (cs.drop start)).1.length

end CiteSieve.Bibtex
