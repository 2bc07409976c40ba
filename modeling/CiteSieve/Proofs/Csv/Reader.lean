import CiteSieve.Csv.Writer

/-!
# Reading tables

A reader of the usual kind goes through a text once. Outside quotes the delimiter closes a cell and
a line end closes the row; within quotes both are text, and so is a quote that is written twice. A
quote opens a quoted cell where the cell begins, and is text in any other cell. A line without
characters is no row, so it does not matter whether lines end in one character or in two.

* `read`: the rows of a text.
* `run_append`: reading goes on where it stopped.
* `next_delimiter`, `next_lineFeed`: what ends a cell, wherever its text has ended.
-/

namespace CiteSieve.Csv

/-! ## The reader -/

/-- Where a reader stands. -/
inductive Place where
  /-- No character of the row has been read. -/
  | rowStart
  /-- Behind a delimiter. -/
  | cellStart
  /-- In a cell without quotes. -/
  | plain
  /-- Within the quotes of a cell. -/
  | quoted
  /-- Behind a quote that closes the cell, or that is the first of two. -/
  | behindQuote
  deriving DecidableEq, Repr

/-- What has been read: rows, cells of a row that is not closed, and the text of a cell that is
not. -/
structure Reader where
  rows : List (List String) := []
  row : List String := []
  cell : List Char := []
  place : Place := .rowStart
  deriving DecidableEq, Repr

def isLineEnd (c : Char) : Bool :=
  c == '\n' || c == '\r'

namespace Reader

/-- The character belongs to the cell. -/
def take (r : Reader) (c : Char) (place : Place) : Reader :=
  { r with cell := r.cell ++ [c], place }

/-- The cell is closed. -/
def closeCell (r : Reader) : Reader :=
  { rows := r.rows, row := r.row ++ [String.ofList r.cell], place := .cellStart }

/-- The cell is closed, and the row with it. -/
def closeRow (r : Reader) : Reader :=
  { rows := r.rows ++ [r.row ++ [String.ofList r.cell]] }

/-- One more character outside quotes. -/
def nextPlain (d : Dialect) (r : Reader) (c : Char) : Reader :=
  if isLineEnd c then r.closeRow
  else if c = d.delimiter then r.closeCell
  else r.take c .plain

/-- One more character where a cell begins. -/
def nextFirst (d : Dialect) (r : Reader) (c : Char) : Reader :=
  if c = d.quote then { r with place := .quoted } else r.nextPlain d c

/-- One more character. -/
def next (d : Dialect) (r : Reader) (c : Char) : Reader :=
  match r.place with
  | .rowStart => if isLineEnd c then r else r.nextFirst d c
  | .cellStart => r.nextFirst d c
  | .plain => r.nextPlain d c
  | .quoted => if c = d.quote then { r with place := .behindQuote } else r.take c .quoted
  | .behindQuote => if c = d.quote then r.take c .quoted else r.nextPlain d c

/-- A text. -/
def run (d : Dialect) (r : Reader) (cs : List Char) : Reader :=
  cs.foldl (next d) r

/-- The rows, the last one closed by the end of the text. -/
def done (r : Reader) : List (List String) :=
  if r.place = .rowStart then r.rows else r.closeRow.rows

end Reader

/-- The rows of a text. -/
def read (d : Dialect) (text : String) : List (List String) :=
  (Reader.run d {} text.toList).done

/-- Rows of both kinds, a blank line, text behind a closing quote and a row that is not closed. -/
example : read {} "a,\"b\"\"\n,\",\r\n\n\"c\"d,e\"" = [["a", "b\"\n,", ""], ["cd", "e\""]] := by
  decide

/-! ## Laws -/

/-- The characters of a dialect can be told apart from each other and from line ends. -/
structure Dialect.IsDistinct (d : Dialect) : Prop where
  ne : d.delimiter ≠ d.quote
  delimiter : isLineEnd d.delimiter = false
  quote : isLineEnd d.quote = false

namespace Reader

section Steps

variable {d : Dialect} {r : Reader} {c : Char}

theorem run_append (d : Dialect) (r : Reader) (as bs : List Char) :
    r.run d (as ++ bs) = (r.run d as).run d bs :=
  List.foldl_append ..

@[simp] theorem run_nil (d : Dialect) (r : Reader) : r.run d [] = r := rfl

@[simp] theorem run_cons (d : Dialect) (r : Reader) (c : Char) (cs : List Char) :
    r.run d (c :: cs) = (r.next d c).run d cs := rfl

/-- **A delimiter closes the cell**, except within quotes. -/
theorem next_delimiter (hd : d.IsDistinct) (h : r.place ≠ .quoted) :
    r.next d d.delimiter = r.closeCell := by
  have hplain : r.nextPlain d d.delimiter = r.closeCell := by
    unfold nextPlain
    rw [hd.delimiter, if_neg Bool.false_ne_true, if_pos rfl]
  have hfirst : r.nextFirst d d.delimiter = r.closeCell := by
    unfold nextFirst
    rw [if_neg hd.ne, hplain]
  unfold next
  cases hplace : r.place with
  | rowStart =>
    dsimp only
    rw [hd.delimiter, if_neg Bool.false_ne_true, hfirst]
  | cellStart => exact hfirst
  | plain => exact hplain
  | quoted => exact absurd hplace h
  | behindQuote =>
    dsimp only
    rw [if_neg hd.ne, hplain]

/-- **A line end closes the row**, except within quotes, and if there is one. -/
theorem next_lineFeed (hd : d.IsDistinct) (h : r.place ≠ .quoted) (hrow : r.place ≠ .rowStart) :
    r.next d '\n' = r.closeRow := by
  have hquote : '\n' ≠ d.quote := by
    intro he
    exact absurd hd.quote (by rw [← he]; decide)
  have hplain : r.nextPlain d '\n' = r.closeRow := rfl
  unfold next
  cases hplace : r.place with
  | rowStart => exact absurd hplace hrow
  | cellStart =>
    dsimp only
    unfold nextFirst
    rw [if_neg hquote, hplain]
  | plain => exact hplain
  | quoted => exact absurd hplace h
  | behindQuote =>
    dsimp only
    rw [if_neg hquote, hplain]

/-- A character without a meaning of its own belongs to a cell that is not quoted. -/
theorem nextPlain_text (hc : d.isSpecial c = false) (hr : c ≠ '\r') :
    r.nextPlain d c = r.take c .plain := by
  simp only [Dialect.isSpecial, Bool.or_eq_false_iff, beq_eq_false_iff_ne] at hc
  have hend : isLineEnd c = false := by simp [isLineEnd, hc.2, hr]
  unfold nextPlain
  rw [hend, if_neg Bool.false_ne_true, if_neg hc.1.1]

/-- It begins such a cell, too. -/
theorem next_first (hc : d.isSpecial c = false) (hr : c ≠ '\r')
    (h : r.place = .rowStart ∨ r.place = .cellStart) : r.next d c = r.take c .plain := by
  have htext := nextPlain_text (r := r) hc hr
  simp only [Dialect.isSpecial, Bool.or_eq_false_iff, beq_eq_false_iff_ne] at hc
  have hend : isLineEnd c = false := by simp [isLineEnd, hc.2, hr]
  have hfirst : r.nextFirst d c = r.take c .plain := by
    unfold nextFirst
    rw [if_neg hc.1.2, htext]
  unfold next
  rcases h with h | h
  · rw [h]
    dsimp only
    rw [hend, if_neg Bool.false_ne_true, hfirst]
  · rw [h]
    exact hfirst

/-- A quote opens a quoted cell where the cell begins. -/
theorem next_quote (hd : d.IsDistinct) (h : r.place = .rowStart ∨ r.place = .cellStart) :
    r.next d d.quote = { r with place := .quoted } := by
  have hfirst : r.nextFirst d d.quote = { r with place := .quoted } := if_pos rfl
  unfold next
  rcases h with h | h
  · rw [h]
    dsimp only
    rw [hd.quote, if_neg Bool.false_ne_true, hfirst]
  · rw [h]
    exact hfirst

end Steps

end Reader

end CiteSieve.Csv
