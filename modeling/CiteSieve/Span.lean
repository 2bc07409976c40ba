import CiteSieve.Text.Slice

/-!
# Spans

A span is a range of a text that belongs to a block.

* `resolveOverlaps` keeps, from left to right, the longest span at each start that is free.
* `segments` cuts a text into runs along spans; the runs make up the text.
-/

namespace CiteSieve

/-- The range `[start, stop)` of a text, which reads `text` and belongs to a block. -/
structure Span where
  start : Nat
  stop : Nat
  blockName : String
  text : String
  deriving DecidableEq, Repr

namespace Span

def length (s : Span) : Int :=
  (s.stop : Int) - s.start

/-- The ranges share a position. -/
def overlaps (s t : Span) : Bool :=
  s.start < t.stop && t.start < s.stop

/-- The earlier one comes first, of two with one start the longer one. -/
def comesFirst (s t : Span) : Bool :=
  s.start < t.start || (s.start == t.start && decide (t.length ≤ s.length))

/-- Keep each span that starts at `free` or later, which then is its end. -/
def selectFrom : (free : Nat) → List Span → List Span
  | _, [] => []
  | free, s :: ss => if free ≤ s.start then s :: selectFrom s.stop ss else selectFrom free ss

/-- Spans that do not overlap, the leftmost and longest first. -/
def resolveOverlaps (ss : List Span) : List Span :=
  selectFrom 0 (ss.mergeSort comesFirst)

end Span

/-! ## Segments -/

/-- A run of text, and the block it belongs to. -/
structure Segment where
  text : String
  blockName : Option String
  deriving DecidableEq, Repr

/-- The runs of a text from `pos` on. -/
def segmentsFrom (text : String) : (pos : Nat) → List Span → List Segment
  | pos, [] =>
    if pos < text.length then [⟨Text.slice text pos text.length, none⟩] else []
  | pos, s :: ss =>
    let run : Segment := ⟨Text.slice text s.start s.stop, some s.blockName⟩
    if pos < s.start then
      ⟨Text.slice text pos s.start, none⟩ :: run :: segmentsFrom text s.stop ss
    else run :: segmentsFrom text s.stop ss

/-- The runs of a text along its spans. -/
def segments (text : String) (ss : List Span) : List Segment :=
  segmentsFrom text 0 ss

end CiteSieve
