import CiteSieve.CommandLine.Session
import CiteSieve.Export
import CiteSieve.Report

/-!
# The program

Carries out a command line. A saved query that cannot be loaded and a bibliography without
entries are reported on the console, unless errors are to leave the program.

* `CommandLine.execute`: what a command line leaves behind in a workspace.
-/

namespace CiteSieve.CommandLine

open Effect
open Console (escape Display)

/-- The version that the program reports. -/
def version : String := "0.3.0"

/-- What a command is carried out with. -/
structure Context where
  workspace : Workspace
  settings : Settings := []
  debug : Bool := false

namespace Context

variable (c : Context)

/-! ## Reports of errors -/

/-- End with an error that is reported, or that leaves the program. -/
def fail {α : Type} (report : String) (crash : Crash) : Effect α :=
  if c.debug then Effect.crash crash
  else do
    line report
    throw (.exit 1)

/-- End because a query cannot be loaded; one that cannot be decoded is never reported. -/
def failLoad {α : Type} : LoadError → Effect α
  | .undecodable e => Effect.crash (.load (.undecodable e))
  | e => c.fail ("[red]Error:[/red] " ++ escape e.message) (.load e)

/-- End because there is no query to run. -/
def failResolve {α : Type} : ResolveError → Effect α
  | .load e => c.failLoad e
  | .setting e => Effect.crash (.setting e)
  | .fields e => throw (.usage (.unknownFields e))

/-! ## Running a query -/

/-- The query to run. -/
def query (o : QueryOptions) : Effect Query := do
  let base ← orElse (baseQuery c.workspace.files c.settings o) c.failResolve
  if pastedInVain o then
    line "[yellow]Query string could not be parsed; keeping the current blocks[/yellow]"
  orElse (adjust c.settings o (paste o base)) c.failResolve

/-- The text of a bibliography. -/
def bibliography (file : String) : Except FileError String :=
  if file = standardInput then .ok (Text.unifyLines c.workspace.input)
  else c.workspace.files.readText (.ofString file)

/-- The records of a bibliography. -/
def records (file : String) : Effect (List Record) := do
  let text ← orCrash .file (c.bibliography file)
  orElse (Bibtex.parse text) fun e =>
    c.fail ("[red]No entries found:[/red] " ++ escape e.message) (.noEntries e)

/-- Show the highlights of a field of an item. -/
def showField (r : Run) (styles : Assoc String String) (i : Item) (f : Field) : Effect Unit := do
  let spans ← orCrash .badTerm (r.highlight i f)
  if spans ≠ [] then
    line ("  [bold]" ++ f.label ++ ":[/bold] ")
    display (.styled (Console.paint (i.record.text f) spans styles))

/-- Show the highlights of an item. -/
def showItem (r : Run) (styles : Assoc String String) (i : Item) : Effect Unit := do
  line ("\n[bold cyan]" ++ escape i.record.citeKey ++ "[/bold cyan]")
  Field.all.forM (showField r styles i)

/-- Write an export and report it. -/
def writeExport (file : String) (text : String) (count : Nat) (unit : String) : Effect Unit := do
  let p ← orCrash .setting (exportPath c.workspace.environment c.settings file)
  writeFile p text
  line s!"[green]✓[/green] Wrote {count} {unit} to {p.toString}"

/-- Show and write what a run found. -/
def report (q : Query) (r : Run) (o : RunOptions) : Effect Unit := do
  display (.panel (Report.summaryPanel r.summary))
  if r.matched ≠ [] then table (Report.itemTable r.matched (some "Matched") false)
  else line "[yellow]0 matched[/yellow]"
  if o.showPartial ∧ r.partialMatch ≠ [] then
    table (Report.itemTable r.partialMatch (some "Partial") true)
  if o.showHighlights then
    r.matched.forM (showItem r (Console.blockStyles q.blockNames))
  if o.showStatistics then (Report.statistics q r.stats).forM table
  if let some file := o.csvFile then c.writeExport file r.toCsv r.summary.matched "rows"
  if let some file := o.bibtexFile then c.writeExport file r.toBibtex r.summary.matched "entries"

/-- Run a query over a bibliography. -/
def run (file : String) (o : RunOptions) : Effect Unit := do
  let q ← c.query o.query
  if !q.isConsistent then
    line s!"[yellow]Warning:[/yellow] {q.blocks.length} blocks but {q.operators.length} operators"
  let rs ← c.records file
  let r ← orCrash .badTerm (Run.ofRecords q rs)
  c.report q r o

/-! ## Handling queries -/

/-- Turn a pasted query into blocks. -/
def parseQuery (text : String) (target base : Option String) : Effect Unit := do
  let q ← match base with
    | some file => orElse (Query.loadFile c.workspace.files (.ofString file)) c.failLoad
    | none => pure {}
  match Pasted.substitute? q text with
  | none =>
    line "[yellow]Nothing to parse; no blocks found[/yellow]"
    throw (.exit 1)
  | some q =>
    table (Report.blockTable q)
    if let some file := target then
      let p := Path.ofString file
      writeFile p q.save
      line s!"[green]✓[/green] Saved query configuration to {p.toString}"

/-- Write the starting query. -/
def writeStarter (target : String) (force : Bool) : Effect Unit := do
  let p := Path.ofString target
  if c.workspace.files.has p ∧ !force then
    line s!"[yellow]{p.toString} already exists (use --force)[/yellow]"
    throw (.exit 1)
  writeFile p Query.starter.save
  line s!"[green]✓[/green] Wrote default query configuration to {p.toString}"

/-- Show a saved query. -/
def showQuery (file : String) : Effect Unit := do
  let q ← orElse (Query.loadFile c.workspace.files (.ofString file)) c.failLoad
  table (Report.blockTable q)
  let fields := ", ".intercalate (q.searchFields.fields.map Field.name)
  let fields := if fields = "" then "none" else fields
  let letters := if q.caseInsensitive then "insensitive" else "sensitive"
  line s!"Fields: {fields}; case {letters}"
  let text ← orCrash .missingOperator q.toText
  line ("Query: " ++ escape text)

/-- Carry out a command. -/
def carryOut : Command → Effect Unit
  | .run file o => c.run file o
  | .parseQuery text target base => c.parseQuery text target base
  | .writeStarter target force => c.writeStarter target force
  | .showQuery file => c.showQuery file

end Context

/-! ## Command lines -/

/-- What the program says about its use. -/
def helpText : String :=
  "Usage: bibfilter [OPTIONS] COMMAND [ARGS]...\n\n" ++
    "Commands: " ++ ", ".intercalate commandNames ++ "\n"

/-- The end that stops the reading of a command line. -/
def stop {α : Type} : Stop → Effect α
  | .usage e => throw (.usage e)
  | .version => do
    print ("bibfilter version " ++ version ++ "\n")
    throw (.exit 0)
  | .help asked => do
    print helpText
    throw (.exit (if asked then 0 else usageCode))

/-- The settings that a command is carried out with. -/
def loadSettings (w : Workspace) (i : Invocation) : Effect Settings :=
  orElse (Settings.load w.environment w.files (i.settingsFile.map Path.ofString)) fun e =>
    if i.debug then crash (.settings e)
    else do
      print ("Error loading config file: " ++ e.message ++ "\n")
      throw (.exit 1)

/-- Carry out a command line. -/
def program (w : Workspace) (words : List String) : Effect Unit := do
  let i ← orElse (readInvocation w.files words) stop
  let settings ← loadSettings w i
  let command ← orElse (readNamed w.files i.name i.words) stop
  Context.carryOut ⟨w, settings, i.debug⟩ command

/-- What a command line leaves behind. -/
def execute (w : Workspace) (words : List String) : Conclusion :=
  (program w words).conclude { files := w.files }

end CiteSieve.CommandLine
