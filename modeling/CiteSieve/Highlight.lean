import CiteSieve.Hits
import CiteSieve.Span
import CiteSieve.Term

/-!
# Highlights

The hits of a run are found again in the text of a field: every match of a term that hit, the
plain terms of a block in one pass with the longest first, its regular expressions one by one.
Matches of nothing are passed over.

* `Highlighter.spans`: the spans to paint on one field of one record.
-/

namespace CiteSieve

/-- The matches of a pattern from `pos` on that are not empty, one after the other; at most
`fuel` searches. -/
def Pattern.occurrencesFrom (p : Pattern) (t : Array Char) : (fuel pos : Nat) → List Regex.Match
  | 0, _ => []
  | fuel + 1, pos =>
    if pos ≤ t.size then
      match p.regex.search? t p.groupCount pos with
      | none => []
      | some m =>
        if m.start = m.stop then p.occurrencesFrom t fuel (m.stop + 1)
        else m :: p.occurrencesFrom t fuel m.stop
    else []

/-- The matches of a pattern that are not empty, one after the other. -/
def Pattern.occurrences (p : Pattern) (text : String) : List Regex.Match :=
  p.occurrencesFrom text.toList.toArray (text.length + 1) 0

/-- How hits were found. -/
structure Highlighter where
  caseInsensitive : Bool := true
  /-- The names of the blocks of regular expressions. -/
  regexBlocks : List String := []
  deriving DecidableEq, Repr

namespace Highlighter

/-- The patterns for terms of a block. -/
def patterns (h : Highlighter) (block : String) (terms : List String) :
    Except Regex.Error (List Pattern) := do
  if h.regexBlocks.contains block then Term.patterns terms true h.caseInsensitive
  else
    match ← Term.alternation terms false h.caseInsensitive with
    | some p => .ok [p]
    | none => Term.patterns terms false h.caseInsensitive

/-- Every match of the patterns, as spans of the block. -/
def spansOf (block text : String) (ps : List Pattern) : List Span :=
  ps.flatMap fun p => (p.occurrences text).map fun m =>
    ⟨m.start, m.stop, block, Text.slice text m.start m.stop⟩

/-- Every match of a block's terms. -/
def findSpans (h : Highlighter) (text block : String) (terms : List String) :
    Except Regex.Error (List Span) :=
  (h.patterns block terms).map (spansOf block text)

/-- The spans to paint on the text of a field. -/
def spans (h : Highlighter) (text : String) (field : Field) (hits : HitMap) :
    Except Regex.Error (List Span) := do
  if text = "" then .ok []
  else
    let found ← hits.mapM fun (block, fh) =>
      if fh.get field = [] then .ok [] else h.findSpans text block (fh.get field)
    .ok (Span.resolveOverlaps found.flatten)

end Highlighter

end CiteSieve
