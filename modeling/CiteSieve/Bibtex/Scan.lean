import CiteSieve.Bibtex.Chunk
import CiteSieve.Bibtex.Fields
import CiteSieve.Record

/-!
# Entries in free text

A text is searched for entries from left to right. An `@` that begins a header begins an entry;
any other `@` outside entries is skipped and its offset noted. An entry takes up a chunk of the
text, from its `@` to its closing brace, or up to the next header if it is never closed.

* `scan`: the entries with their chunks, and the offsets that were skipped.
* `parse`: the records of a text; a text that is not blank must hold one.
-/

namespace CiteSieve.Bibtex

/-- An entry: its chunk `[start, stop)` and its record. -/
structure Entry where
  start : Nat
  stop : Nat
  record : Record
  deriving DecidableEq, Repr

/-- The entries of a text and the offsets of the `@` that begin none. -/
structure Scan where
  entries : List Entry := []
  skipped : List Nat := []
  deriving DecidableEq, Repr

/-- The body of an entry whose header has been read, and the text after its chunk. -/
def bodyOf (cs : List Char) : List Char × List Char :=
  (closeChunk 0 false cs).getD (untilHeader cs)

/-- The record of a header and a body. -/
def Header.record (h : Header) (body : List Char) : Record :=
  ⟨String.ofList h.entryType, String.ofList h.citeKey, parseFields body⟩

theorem length_untilHeader_le (cs : List Char) : (untilHeader cs).2.length ≤ cs.length := by
  have h := congrArg List.length (untilHeader_append cs)
  rw [List.length_append] at h
  omega

theorem length_bodyOf_le (cs : List Char) : (bodyOf cs).2.length ≤ cs.length := by
  unfold bodyOf
  cases h : closeChunk 0 false cs with
  | none => exact length_untilHeader_le cs
  | some r =>
    have e : cs = r.1 ++ '\x7d' :: r.2 := eq_of_closeChunk h
    have := congrArg List.length e
    rw [List.length_append, List.length_cons] at this
    simp only [Option.getD_some]
    omega

/-- The scan of `cs`, which stands at the offset `start`. -/
def scanFrom (start : Nat) : List Char → Scan
  | [] => {}
  | c :: cs =>
    match h : header? (c :: cs) with
    | some (header, rest) =>
      let stop := start + ((c :: cs).length - (bodyOf rest).2.length)
      let s := scanFrom stop (bodyOf rest).2
      { s with entries := ⟨start, stop, header.record (bodyOf rest).1⟩ :: s.entries }
    | none =>
      let s := scanFrom (start + 1) cs
      if c = '@' then { s with skipped := start :: s.skipped } else s
termination_by cs => cs.length
decreasing_by
  · have h₁ := length_header? h
    have h₂ := length_bodyOf_le rest
    exact Nat.lt_of_le_of_lt h₂ h₁
  · simp

/-- The entries of a text. -/
def scan (text : String) : Scan :=
  scanFrom 0 text.toList

/-- The records of a scan in order. -/
def Scan.records (s : Scan) : List Record :=
  s.entries.map Entry.record

/-- A text that is not blank holds no entry; `length` is its length. -/
structure NoEntries where
  length : Nat
  deriving DecidableEq, Repr

def NoEntries.message (e : NoEntries) : String :=
  s!"No BibTeX entries found in {e.length} characters of input"

/-- The records of a text. -/
def parse (text : String) : Except NoEntries (List Record) :=
  match (scan text).records with
  | [] => if Text.allBlank text then .ok [] else .error ⟨text.length⟩
  | rs => .ok rs

end CiteSieve.Bibtex
