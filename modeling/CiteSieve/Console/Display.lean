import CiteSieve.Assoc
import CiteSieve.Console.Markup
import CiteSieve.Span

/-!
# What the console shows

Lines, tables, panels and painted texts. Texts hold tags until they are shown; of a painted text
the styles are kept apart.
-/

namespace CiteSieve.Console

/-! ## Tables and panels -/

/-- A table with an optional title, and its rows below the heads of the columns. -/
structure Table where
  title : Option String
  headers : List String
  rows : List (List String) := []
  deriving DecidableEq, Repr

/-- The table with its tags taken out. -/
def Table.shown (t : Table) : Except UnmatchedTag Table := do
  let title ← match t.title with
    | some s => (Console.shown s).map some
    | none => .ok none
  let rows ← t.rows.mapM fun row => row.mapM Console.shown
  .ok { t with title, rows }

/-- A text in a frame with a title. -/
structure Panel where
  title : String
  text : String
  deriving DecidableEq, Repr

/-- The panel with its tags taken out. -/
def Panel.shown (p : Panel) : Except UnmatchedTag Panel := do
  let title ← Console.shown p.title
  let text ← Console.shown p.text
  .ok ⟨title, text⟩

/-! ## Painted texts -/

/-- A range of a text with its style. -/
structure StyledRange where
  start : Nat
  stop : Nat
  style : String
  deriving DecidableEq, Repr

/-- A text with styles on ranges of it. -/
structure StyledText where
  text : String := ""
  styles : List StyledRange := []
  deriving DecidableEq, Repr

/-- The styles of blocks, used in turn. -/
def palette : List String :=
  ["bold black on yellow", "bold black on cyan", "bold black on green",
    "bold black on magenta", "bold white on blue", "bold white on red"]

/-- The style at a position of the palette, which starts over at its end. -/
def paletteStyle (index : Nat) : String :=
  palette.getD (index % palette.length) ""

/-- A style for each name; of a repeated name the last position counts. -/
def blockStyles (names : List String) : Assoc String String :=
  .ofList (names.mapIdx fun i n => (n, paletteStyle i))

/-- Add a run of text, in a style if one is given. -/
def StyledText.add (t : StyledText) (run : String) (style : Option String) : StyledText :=
  let cs := run.toList.filter fun c => !isHidden c
  let start := t.text.length
  { text := t.text ++ String.ofList cs
    styles := t.styles ++
      match style with
      | some s => if run = "" then [] else [⟨start, start + cs.length, s⟩]
      | none => [] }

/-- A text painted along its spans, in the styles of their blocks. -/
def paint (text : String) (spans : List Span) (styles : Assoc String String) : StyledText :=
  (segments text spans).foldl
    (fun t s => t.add s.text
      (s.blockName.map fun n => (styles.lookup n).getD (paletteStyle 0))) {}

/-! ## Displays -/

/-- Something to show. -/
inductive Display where
  | line (text : String)
  | table (t : Table)
  | panel (p : Panel)
  | styled (t : StyledText)
  deriving DecidableEq, Repr

/-- The display with its tags taken out. -/
def Display.shown : Display → Except UnmatchedTag Display
  | .line text => (Console.shown text).map .line
  | .table t => t.shown.map .table
  | .panel p => p.shown.map .panel
  | .styled t => .ok (.styled t)

end CiteSieve.Console
