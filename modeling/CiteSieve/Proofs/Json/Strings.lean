import CiteSieve.Json.Parser
import CiteSieve.Json.Printer

/-!
# Strings are read as they were written

Between quotes a character is written as it is, with a short escape, or with its code in four
hexadecimal digits. Reading takes each of these for the character it was written for
(`readStringWithin_printChar`), so a string is read up to its own closing quote
(`readString_printed`).
-/

namespace CiteSieve.Json

/-! ## Escapes -/

theorem hex_of_lt : ∀ n, n < 0x20 →
    Text.hex 4 n = ['0', '0', Nat.digitChar (n / 16), Nat.digitChar (n % 16)] := by
  decide

theorem hexDigit?_digitChar : ∀ n, n < 16 → hexDigit? (Nat.digitChar n) = some n := by
  decide

/-- The code of a control character is read back from its digits. -/
theorem readUnit_hex {n : Nat} (hn : n < 0x20) (tail : List Char) :
    readUnit (Text.hex 4 n ++ tail) = .ok (n, tail) := by
  have hhigh := hexDigit?_digitChar (n / 16) (by omega)
  have hlow := hexDigit?_digitChar (n % 16) (by omega)
  have hzero : hexDigit? '0' = some 0 := by decide
  rw [hex_of_lt n hn]
  simp only [List.cons_append, List.nil_append, readUnit, hzero, hhigh, hlow]
  rw [show ((0 * 16 + 0) * 16 + n / 16) * 16 + n % 16 = n by omega]

theorem readEscape_short {e c : Char} (hu : e ≠ 'u') (he : shortEscape? e = some c)
    (tail : List Char) : readEscape (e :: tail) = .ok (c, tail) := by
  rw [readEscape, if_neg hu, he]

theorem readEscape_control {c : Char} (hc : c.toNat < 0x20) (tail : List Char) :
    readEscape ('u' :: (Text.hex 4 c.toNat ++ tail)) = .ok (c, tail) := by
  rw [readEscape, if_pos rfl, readUnit_hex hc]
  show (if _ then _ else _ : Except Flaw (Char × List Char)) = _
  rw [if_neg (by omega), if_neg (by omega), Char.ofNat_toNat]

/-! ## Strings -/

/-- A string with one more character at its front. -/
def consChar (c : Char) (r : List Char × List Char) : List Char × List Char :=
  (c :: r.1, r.2)

theorem readStringWithin_escape {c : Char} {es tail : List Char}
    (h : readEscape es = .ok (c, tail)) (n : Nat) :
    readStringWithin (n + 1) ('\\' :: es) = (readStringWithin n tail).map (consChar c) := by
  rw [readStringWithin, if_neg (by decide), if_pos rfl, h]
  show (readStringWithin n tail >>= fun found => .ok (c :: found.1, found.2)) = _
  cases readStringWithin n tail <;> rfl

theorem readStringWithin_plain {c : Char} (hq : c ≠ '"') (hb : c ≠ '\\') (hc : ¬ c.toNat < 0x20)
    (n : Nat) (tail : List Char) :
    readStringWithin (n + 1) (c :: tail) = (readStringWithin n tail).map (consChar c) := by
  rw [readStringWithin, if_neg hq, if_neg hb, if_neg hc]
  cases readStringWithin n tail <;> rfl

/-- **A written character is read as that character**, whichever way it was written. -/
theorem readStringWithin_printChar (c : Char) (n : Nat) (tail : List Char) :
    readStringWithin (n + 1) (printChar c ++ tail) =
      (readStringWithin n tail).map (consChar c) := by
  have short : ∀ {e : Char}, e ≠ 'u' → shortEscape? e = some c →
      readStringWithin (n + 1) ('\\' :: e :: tail) = (readStringWithin n tail).map (consChar c) :=
    fun hu he => readStringWithin_escape (readEscape_short hu he tail) n
  unfold printChar
  split
  · rename_i h; exact short (by decide) (by rw [h]; rfl)
  split
  · rename_i h; exact short (by decide) (by rw [h]; rfl)
  split
  · rename_i h; exact short (by decide) (by rw [h]; rfl)
  split
  · rename_i h; exact short (by decide) (by rw [h]; rfl)
  split
  · rename_i h; exact short (by decide) (by rw [h]; rfl)
  split
  · rename_i h; exact short (by decide) (by rw [h]; rfl)
  split
  · rename_i h; exact short (by decide) (by rw [h]; rfl)
  split
  · rename_i hc
    exact readStringWithin_escape (readEscape_control hc tail) n
  · rename_i hq hb _ _ _ _ _ hc
    exact readStringWithin_plain hq hb hc n tail

theorem length_le_flatMap_printChar (cs : List Char) :
    cs.length ≤ (cs.flatMap printChar).length := by
  induction cs with
  | nil => exact Nat.le_refl _
  | cons c cs ih =>
    have hc : 1 ≤ (printChar c).length := by
      unfold printChar
      repeat' split
      all_goals simp
    rw [List.flatMap_cons, List.length_append, List.length_cons]
    omega

theorem readStringWithin_flatMap (cs tail : List Char) : ∀ {n : Nat}, cs.length < n →
    readStringWithin n (cs.flatMap printChar ++ '"' :: tail) = .ok (cs, tail) := by
  induction cs with
  | nil =>
    intro n hn
    obtain ⟨m, rfl⟩ := Nat.exists_eq_add_one.mpr (Nat.zero_lt_of_lt hn)
    rw [List.flatMap_nil, List.nil_append, readStringWithin, if_pos rfl]
  | cons c cs ih =>
    intro n hn
    obtain ⟨m, rfl⟩ := Nat.exists_eq_add_one.mpr (Nat.zero_lt_of_lt hn)
    rw [List.length_cons] at hn
    rw [List.flatMap_cons, List.append_assoc, readStringWithin_printChar, ih (by omega)]
    rfl

/-- What stands behind the opening quote of a written string is read up to its closing quote. -/
theorem readString_printed (s : String) (tail : List Char) :
    readString (s.toList.flatMap printChar ++ '"' :: tail) = .ok (s, tail) := by
  have hlen := length_le_flatMap_printChar s.toList
  unfold readString
  rw [readStringWithin_flatMap s.toList tail
    (by rw [List.length_append, List.length_cons]; omega)]
  show Except.ok (String.ofList s.toList, tail) = _
  rw [String.ofList_toList]

end CiteSieve.Json
