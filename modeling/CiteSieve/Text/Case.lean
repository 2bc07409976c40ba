import CiteSieve.Text.Case.Table

/-!
# Letter case

`lower` and `upper` change the case of a whole text: a capital sigma at the end of a word becomes
a final sigma, and a letter whose capital is several letters expands. `lowerCode` and
`capitalCode` work on single code points and never change the length; `caseVariants` lists the
lower-case letters that share a capital with a given one.
-/

namespace CiteSieve.Text

/-! ## Single code points -/

/-- The image of `n` under the run of `shifts` that holds it, `n` itself if none does. -/
def shiftCode (shifts : List Shift) (n : Nat) : Nat :=
  match shifts.find? fun s =>
      decide (s.first ≤ n) && decide (n ≤ s.last) && (n - s.first) % s.step == 0 with
  | some s => (n + s.delta).toNat
  | none => n

/-- The lower-case form of a code point, itself if it has none. -/
def lowerCode (n : Nat) : Nat :=
  if n < 0x80 then
    if 0x41 ≤ n && n ≤ 0x5a then n + 0x20 else n
  else shiftCode lowerShifts n

/-- The upper-case form of a code point, as many code points as it takes. -/
def upperCodes (n : Nat) : List Nat :=
  if n < 0x80 then
    if 0x61 ≤ n && n ≤ 0x7a then [n - 0x20] else [n]
  else
    match upperExpansions.lookup n with
    | some ns => ns
    | none => [shiftCode upperShifts n]

/-- The first code point of the upper-case form. -/
def capitalCode (n : Nat) : Nat :=
  (upperCodes n).headD n

/-- The code points whose lower-case form is `n`. -/
def lowerPreimages (n : Nat) : List Nat :=
  let moved := lowerShifts.filterMap fun s =>
    let m : Int := n - s.delta
    if (s.first : Int) ≤ m ∧ m ≤ s.last ∧ (m.toNat - s.first) % s.step = 0 then some m.toNat
    else none
  let own := if lowerCode n == n then [n] else []
  let ascii := if 0x61 ≤ n && n ≤ 0x7a then [n - 0x20] else []
  own ++ ascii ++ moved

/-- The lower-case letters that share a capital with the lower-case letter `n`, itself first. -/
def caseVariants (n : Nat) : List Nat :=
  match sharedCapitals.find? (·.contains n) with
  | some ns => n :: ns.erase n
  | none => [n]

/-- The lower-case form of an ASCII letter; every other code point stays. -/
def lowerAsciiCode (n : Nat) : Nat :=
  if 0x41 ≤ n && n ≤ 0x5a then n + 0x20 else n

/-! ## Whole texts -/

/-- A letter with case that ends the search for the end of a word. -/
def isCased (c : Char) : Bool := casedRanges.has c.toNat

/-- A character that the search for the end of a word skips. -/
def isCaseIgnorable (c : Char) : Bool := caseIgnorableRanges.has c.toNat

/-- A letter with case comes first among the characters that are not skipped. -/
def meetsCased (cs : List Char) : Bool :=
  ((cs.dropWhile isCaseIgnorable).head?.map isCased).getD false

/-- The lower-case form of `c` between what was read (`before`, last first) and `after`. -/
def lowerChar (before : List Char) (c : Char) (after : List Char) : List Char :=
  if c.toNat == 0x3a3 then
    if meetsCased before && !meetsCased after then [Char.ofNat 0x3c2] else [Char.ofNat 0x3c3]
  else if c.toNat == 0x130 then ['i', Char.ofNat 0x307]
  else [Char.ofNat (lowerCode c.toNat)]

/-- The lower-case form of `cs` after the characters `before`, which stand in reverse. -/
def lowerFrom (before : List Char) : List Char → List Char
  | [] => []
  | c :: cs => lowerChar before c cs ++ lowerFrom (c :: before) cs

/-- The text in lower case. -/
def lower (s : String) : String :=
  String.ofList (lowerFrom [] s.toList)

/-- The upper-case form of `cs`. -/
def upperChars (cs : List Char) : List Char :=
  cs.flatMap fun c => (upperCodes c.toNat).map Char.ofNat

/-- The text in upper case. -/
def upper (s : String) : String :=
  String.ofList (upperChars s.toList)

end CiteSieve.Text
