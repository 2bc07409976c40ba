import CiteSieve.Proofs.Bibtex.Chunks
import CiteSieve.Proofs.Bibtex.RoundTrip

/-!
# Entries are local

What is found in a text depends on nothing that stands elsewhere: a scan gives the same entries
wherever its text stands, and the entries of a text are found as if the text ended, whatever begins
behind it with a header, as long as each of them is closed.

Main statement, `parse_append_of_header`: the records of two texts, one behind the other, are the
records of the one and then those of the other.
-/

namespace CiteSieve.Bibtex

/-! ## A scan further on -/

def Entry.shift (n : Nat) (e : Entry) : Entry :=
  { e with start := e.start + n, stop := e.stop + n }

/-- The scan of the same text, `n` characters further on. -/
def Scan.shift (n : Nat) (s : Scan) : Scan :=
  ⟨s.entries.map (Entry.shift n), s.skipped.map (· + n)⟩

theorem Scan.records_shift (n : Nat) (s : Scan) : (s.shift n).records = s.records := by
  unfold Scan.records Scan.shift
  rw [List.map_map]
  exact List.map_congr_left fun _ _ => rfl

/-- **A scan finds the same wherever its text stands.** -/
theorem scanFrom_add (n start : Nat) (cs : List Char) :
    scanFrom (start + n) cs = (scanFrom start cs).shift n := by
  fun_induction scanFrom start cs with
  | case1 start =>
    rw [scanFrom]
    rfl
  | case2 start c cs header rest hh stop s ih =>
    have hstop : start + n + ((c :: cs).length - (bodyOf rest).2.length) = stop + n := by
      simp only [stop]
      omega
    rw [scanFrom_of_header hh]
    simp only [hstop, ih]
    rfl
  | case3 start cs s hh ih =>
    rw [scanFrom_of_none hh, Nat.add_right_comm, ih]
    rfl
  | case4 start c cs hh s hc ih =>
    rw [scanFrom_of_none hh, Nat.add_right_comm, ih]
    exact if_neg hc

/-! ## A text with a header behind it -/

/-- The entry has a closing brace in `text`. -/
def Entry.isClosedIn (text : List Char) (e : Entry) : Bool :=
  match header? (text.drop e.start) with
  | some (_, rest) => (chunkEnd? text (offsetOf text rest)).isSome
  | none => false

/-- What stands behind the header of an entry that is closed has its closing brace. -/
theorem closeChunk_of_isClosedIn {text rest : List Char} {e : Entry} {h : Header}
    (he : e.isClosedIn text = true) (hh : header? (text.drop e.start) = some (h, rest)) :
    (closeChunk 0 false rest).isSome = true := by
  unfold Entry.isClosedIn at he
  rw [hh] at he
  dsimp only at he
  rwa [chunkEnd?, Option.isSome_map, (lt_offsetOf_of_header hh).2.2] at he

/-- **The scan of two texts**, one behind the other, is the scan of each where it stands. -/
theorem scan_append_of_header {text₁ text₂ : String}
    (hclosed : ∀ e ∈ (scan text₁).entries, e.isClosedIn text₁.toList = true)
    (hheader : (header? text₂.toList).isSome = true) :
    scan (text₁ ++ text₂) = (scan text₁).append ((scan text₂).shift text₁.length) := by
  have hbodies : EachBody (fun rest => bodyOf (rest ++ text₂.toList) =
      before text₂.toList (bodyOf rest)) 0 text₁.toList := fun e he _ _ hh =>
    bodyOf_append_of_closed (closeChunk_of_isClosedIn (hclosed e he) hh) _
  unfold scan
  rw [String.toList_append, scanFrom_append_of_bodies hheader 0 _ hbodies, String.length_toList,
    scanFrom_add]

/-- A text that begins with a header holds an entry. -/
theorem records_ne_nil_of_header {text : String} (hheader : (header? text.toList).isSome = true) :
    (scan text).records ≠ [] := by
  intro hnil
  have hnone := (scan_entries_eq_nil_iff text).mp (List.map_eq_nil_iff.mp hnil) 0
  rw [List.drop_zero] at hnone
  rw [hnone] at hheader
  cases hheader

/-- **Entries are local.** Behind a text whose entries are all closed, a text that begins with a
header yields what it yields on its own, and so does the text before it. -/
theorem parse_append_of_header {text₁ text₂ : String}
    (hclosed : ∀ e ∈ (scan text₁).entries, e.isClosedIn text₁.toList = true)
    (hheader : (header? text₂.toList).isSome = true) :
    parse (text₁ ++ text₂) = .ok (recordsFound text₁ ++ recordsFound text₂) ∧
      (scan (text₁ ++ text₂)).skipped =
        (scan text₁).skipped ++ (scan text₂).skipped.map (· + text₁.length) := by
  have hscan := scan_append_of_header hclosed hheader
  have hrecords : (scan (text₁ ++ text₂)).records = recordsFound text₁ ++ recordsFound text₂ := by
    rw [hscan, recordsFound_eq, recordsFound_eq, ← Scan.records_shift text₁.length (scan text₂)]
    exact List.map_append
  refine ⟨parse_eq_ok hrecords ?_, by rw [hscan]; rfl⟩
  rw [recordsFound_eq text₂]
  exact List.append_ne_nil_of_right_ne_nil _ (records_ne_nil_of_header hheader)

/-- Prose with a stray `@` and a closed entry, that ends within a header. -/
def halfHeaderText : String :=
  "a@b @misc\x7bk, t = \"\x7d\"\x7d and @half\x7bkey "

/-- An entry and another one that is never closed, with a stray `@` between them. -/
def unclosedText : String :=
  "@book\x7bm, t = \x7bx\x7d\x7d c@d @misc\x7bn, u = 1"

theorem parse_halfHeader_append_unclosed :
    (∀ e ∈ (scan halfHeaderText).entries, e.isClosedIn halfHeaderText.toList = true) ∧
      (header? unclosedText.toList).isSome = true ∧
      parse (halfHeaderText ++ unclosedText) =
        .ok (recordsFound halfHeaderText ++ recordsFound unclosedText) ∧
      (scan (halfHeaderText ++ unclosedText)).skipped =
        (scan halfHeaderText).skipped ++
          (scan unclosedText).skipped.map (· + halfHeaderText.length) := by
  have hclosed : ∀ e ∈ (scan halfHeaderText).entries,
      e.isClosedIn halfHeaderText.toList = true := by
    decide +kernel
  have hheader : (header? unclosedText.toList).isSome = true := by decide +kernel
  exact ⟨hclosed, hheader, parse_append_of_header hclosed hheader⟩

end CiteSieve.Bibtex
