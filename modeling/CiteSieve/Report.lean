import CiteSieve.Console.Display
import CiteSieve.Run

/-!
# Reports

What the console shows of a run, of its statistics and of a query. Texts of the user are escaped,
so that they are shown as they are; the names in the titles of term tables are not.
-/

namespace CiteSieve.Report

open Console (Table Panel escape)

/-- The escaped text, or `placeholder` where it is empty. -/
def escapeOr (placeholder text : String) : String :=
  if escape text = "" then placeholder else escape text

/-! ## Runs -/

/-- The counts of a run. -/
def summaryPanel (s : Summary) : Panel :=
  { title := "Run Summary"
    text := "\n".intercalate
      [s!"[bold]Total entries:[/bold] {s.total}", s!"[bold]Eligible:[/bold] {s.eligible}",
        s!"[green]Matched:[/green] {s.matched}", s!"[yellow]Partial:[/yellow] {s.partialMatch}",
        s!"[red]Unmatched:[/red] {s.unmatched}"] }

/-- The heads of the columns of a table of items. -/
def itemHeaders (showMissing : Bool) : List String :=
  ["Key", "Title", "Year", "Blocks", "Terms"] ++ if showMissing then ["Missing"] else []

/-- The row of an item. -/
def itemRow (showMissing : Bool) (i : Item) : List String :=
  [escape i.record.citeKey, escapeOr "[dim]No title[/dim]" i.record.cleanTitle,
    escapeOr "[dim]-[/dim]" i.record.year, escape i.blocksText, escape i.detail] ++
    if showMissing then [escape (", ".intercalate i.missing)] else []

/-- Items as a table; one row of dashes if there are none. -/
def itemTable (is : List Item) (title : Option String) (showMissing : Bool) : Table :=
  let headers := itemHeaders showMissing
  { title, headers
    rows :=
      if is.isEmpty then [headers.map fun _ => "[dim]-[/dim]"]
      else is.map (itemRow showMissing) }

/-! ## Statistics -/

/-- The term with more records comes first, then the smaller one. -/
def termComesFirst (a b : String × TermCount) : Bool :=
  TermStats.ranksBefore (a.1, a.2.documents) (b.1, b.2.documents)

/-- The row of a term. -/
def termRow (term : String) (c : TermCount) : List String :=
  [escape term, if c.documents = 0 then "[dim]no matches[/dim]" else toString c.documents] ++
    Field.all.map fun f => toString (c.get f)

/-- The terms of a block. -/
def termTable (s : TermStats) (block : String) : Table :=
  { title := some ("Terms: " ++ block)
    headers := ["Term", "Docs"] ++ Field.all.map Field.label
    rows := ((s.block block).mergeSort termComesFirst).map fun (t, c) => termRow t c }

/-- How many terms are listed as those that hit most records. -/
def topLimit : Int := 15

/-- The terms that hit most records. -/
def topTable (s : TermStats) : Table :=
  { title := some "Top Terms"
    headers := ["Term", "Docs"] ++ Field.all.map Field.label
    rows := (s.topTerms topLimit).map fun (t, n) =>
      [escape t, toString n] ++
        Field.all.map fun f => toString (((s.fieldCounts f).lookup t).getD 0) }

/-- The statistics of the run of a query: the top terms, and a table for each block of the query
that has terms. -/
def statistics (q : Query) (s : TermStats) : List Table :=
  topTable s ::
    (q.blockNames.filter fun n => (s.byBlock.lookup n).isSome).map (termTable s)

/-! ## Queries -/

/-- Shown where something holds. -/
def checkMark (b : Bool) : String :=
  if b then "✓" else ""

/-- The row of the block at a position, with the operator that follows it. -/
def blockRow (q : Query) (index : Nat) (b : Block) : List String :=
  [toString (index + 1), escape b.name, escape (" | ".intercalate b.terms), checkMark b.isRegex,
    checkMark b.exclude, ((q.operators[index]?).map Operator.name).getD ""]

/-- The blocks of a query. -/
def blockTable (q : Query) : Table :=
  { title := some "Blocks"
    headers := ["#", "Name", "Terms", "Regex", "NOT", "Next"]
    rows := q.blocks.mapIdx (blockRow q) }

end CiteSieve.Report
