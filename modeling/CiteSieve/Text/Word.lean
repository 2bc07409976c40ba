import CiteSieve.Text.Word.Table

/-!
# Word characters and digits

A word character is a letter, a number of any kind or the underscore; a digit is a decimal digit
of any script. Both come with their ASCII halves, which are decided without the tables.
-/

namespace CiteSieve.Text

/-! ## Words -/

/-- An ASCII letter, digit or underscore. -/
def isAsciiWord (c : Char) : Bool :=
  c.isAlphanum || c == '_'

/-- A letter, a number of any kind or the underscore. -/
def isWord (c : Char) : Bool :=
  if c.toNat < 0x80 then isAsciiWord c else wordRanges.has c.toNat

theorem isWord_of_ascii {c : Char} (h : c.toNat < 0x80) : isWord c = isAsciiWord c := by
  simp [isWord, h]

theorem toNat_lt_of_isAsciiWord {c : Char} (h : isAsciiWord c = true) : c.toNat < 0x80 := by
  change (((decide (65 ≤ c.val ∧ c.val ≤ 90) || decide (97 ≤ c.val) && decide (c.val ≤ 122)) ||
    decide (48 ≤ c.val) && decide (c.val ≤ 57)) || c == '_') = true at h
  simp only [Bool.or_eq_true, Bool.and_eq_true, decide_eq_true_eq, beq_iff_eq,
    UInt32.le_iff_toNat_le] at h
  show c.val.toNat < 0x80
  rcases h with ((⟨-, h⟩ | ⟨-, h⟩) | ⟨-, h⟩) | rfl
  · exact Nat.lt_of_le_of_lt h (by decide)
  · exact Nat.lt_of_le_of_lt h (by decide)
  · exact Nat.lt_of_le_of_lt h (by decide)
  · decide

theorem isWord_of_isAsciiWord {c : Char} (h : isAsciiWord c = true) : isWord c = true := by
  rw [isWord_of_ascii (toNat_lt_of_isAsciiWord h), h]

/-! ## Digits -/

/-- A decimal digit of any script. -/
def isDigit (c : Char) : Bool :=
  if c.toNat < 0x80 then c.isDigit else digitRanges.has c.toNat

/-- The value of a decimal digit of any script. -/
def digitValue? (c : Char) : Option Nat :=
  let n := c.toNat
  if n < 0x80 then
    if c.isDigit then some (n - 0x30) else none
  else
    (digitRanges.find? fun r => decide (r.1 ≤ n) && decide (n ≤ r.2)).map fun r => (n - r.1) % 10

end CiteSieve.Text
