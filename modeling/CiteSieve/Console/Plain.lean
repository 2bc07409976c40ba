import CiteSieve.Console.Display

/-!
# Plain text

Displays as lines of plain text, without colours or frames. The cells of a table stand in columns.
-/

namespace CiteSieve.Console

/-- The text with spaces after it up to the given width. -/
def padTo (width : Nat) (s : String) : String :=
  s ++ String.ofList (List.replicate (width - s.length) ' ')

/-- The width of each column: that of its longest cell. -/
def columnWidths (rows : List (List String)) : List Nat :=
  rows.foldl (fun widths row =>
    (List.range (max widths.length row.length)).map fun i =>
      max (widths.getD i 0) ((row.getD i "").length)) []

/-- A row with its cells padded to the widths of their columns. -/
def rowText (widths : List Nat) (row : List String) : String :=
  "  ".intercalate (List.zipWith padTo widths row)

/-- A table in lines: its title, the heads of its columns and its rows. -/
def Table.plain (t : Table) : String :=
  let rows := t.headers :: t.rows
  let widths := columnWidths rows
  "\n".intercalate (t.title.toList ++ rows.map (rowText widths))

/-- A display in lines. -/
def Display.plain : Display → String
  | .line text => text
  | .table t => t.plain
  | .panel p => p.title ++ "\n" ++ p.text
  | .styled t => t.text

end CiteSieve.Console
