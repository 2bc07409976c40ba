/-!
# Slices

Texts are counted and cut in characters.
-/

namespace CiteSieve.Text

/-- The characters from `a` up to `b`, as far as there are any. -/
def sliceChars (cs : List Char) (a b : Nat) : List Char :=
  (cs.take b).drop a

/-- The characters from `a` up to `b`, as far as there are any. -/
def slice (s : String) (a b : Nat) : String :=
  String.ofList (sliceChars s.toList a b)

@[simp] theorem toList_slice (s : String) (a b : Nat) :
    (slice s a b).toList = sliceChars s.toList a b := by
  simp [slice]

theorem sliceChars_append (cs : List Char) {a b c : Nat} (hab : a ≤ b) (hbc : b ≤ c) :
    sliceChars cs a b ++ sliceChars cs b c = sliceChars cs a c := by
  unfold sliceChars
  have hlen : c - a = (b - a) + (c - b) := by omega
  have hdrop : (cs.drop a).drop (b - a) = cs.drop b := by
    rw [List.drop_drop, Nat.add_sub_cancel' hab]
  rw [List.drop_take, List.drop_take, List.drop_take, hlen, List.take_add, hdrop]

theorem length_sliceChars {cs : List Char} {b : Nat} (h : b ≤ cs.length) (a : Nat) :
    (sliceChars cs a b).length = b - a := by
  unfold sliceChars
  rw [List.length_drop, List.length_take, Nat.min_eq_left h]

theorem sliceChars_length (cs : List Char) (a : Nat) :
    sliceChars cs a cs.length = cs.drop a := by
  unfold sliceChars
  rw [List.take_length]

end CiteSieve.Text
