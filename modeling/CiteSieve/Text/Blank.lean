/-!
# Blanks

White space in the Unicode sense, with the four information separators. `trim` drops blanks at
both ends of a text, `collapse` also turns every run of blanks into one space.
-/

namespace CiteSieve.Text

/-- White space: tabs and line ends, separators, and the spaces of all widths. -/
def isBlank (c : Char) : Bool :=
  let n := c.toNat
  (9 ≤ n && n ≤ 13) || (28 ≤ n && n ≤ 32) || n == 0x85 || n == 0xa0 || n == 0x1680 ||
    (0x2000 ≤ n && n ≤ 0x200a) || n == 0x2028 || n == 0x2029 || n == 0x202f || n == 0x205f ||
    n == 0x3000

/-! ## Trimming -/

/-- Drop blanks at the end. -/
def trimEndChars (cs : List Char) : List Char :=
  (cs.reverse.dropWhile isBlank).reverse

/-- Drop blanks at both ends. -/
def trimChars (cs : List Char) : List Char :=
  trimEndChars (cs.dropWhile isBlank)

/-- Drop blanks at both ends. -/
def trim (s : String) : String :=
  String.ofList (trimChars s.toList)

/-- The text holds nothing but blanks. -/
def allBlank (s : String) : Bool :=
  s.toList.all isBlank

@[simp] theorem toList_trim (s : String) : (trim s).toList = trimChars s.toList := by
  simp [trim]

/-! ## Collapsing -/

/-- Every run of blanks becomes one space; `after` says that a run is being skipped. -/
def squeeze : (after : Bool) → List Char → List Char
  | _, [] => []
  | after, c :: cs =>
    if isBlank c then
      if after then squeeze true cs else ' ' :: squeeze true cs
    else c :: squeeze false cs

/-- Every run of blanks becomes one space, and the ends are trimmed. -/
def collapse (s : String) : String :=
  String.ofList (trimChars (squeeze false s.toList))

@[simp] theorem toList_collapse (s : String) :
    (collapse s).toList = trimChars (squeeze false s.toList) := by
  simp [collapse]

/-! ## Laws -/

theorem head?_dropWhile_blank {cs : List Char} {c : Char}
    (h : (cs.dropWhile isBlank).head? = some c) : isBlank c = false := by
  simpa [h] using List.head?_dropWhile_not isBlank cs

theorem dropWhile_dropWhile (cs : List Char) :
    (cs.dropWhile isBlank).dropWhile isBlank = cs.dropWhile isBlank := by
  cases h : cs.dropWhile isBlank with
  | nil => rfl
  | cons c r =>
    have hc : (cs.dropWhile isBlank).head? = some c := by simp [h]
    simp [head?_dropWhile_blank hc]

theorem trimEndChars_trimEndChars (cs : List Char) :
    trimEndChars (trimEndChars cs) = trimEndChars cs := by
  simp [trimEndChars, dropWhile_dropWhile]

end CiteSieve.Text
