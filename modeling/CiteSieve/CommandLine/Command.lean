import CiteSieve.CommandLine.Options
import CiteSieve.Files.Tree

/-!
# Commands

What can be asked for: to run a query over a bibliography, to turn a pasted query into blocks, to
write the starting query, and to show a saved one. Options of the program stand before the
command.

A command line is checked from left to right: first that it can be read, then the values of its
options, then its arguments.
-/

namespace CiteSieve.CommandLine

/-! ## Requests -/

/-- Ends the reading of a command line. -/
inductive Stop where
  | usage (e : UsageError)
  | version
  /-- Help is shown, which was asked for or takes the place of a missing command. -/
  | help (asked : Bool)
  deriving DecidableEq, Repr

/-- What to run a query with. -/
structure QueryOptions where
  queryFile : Option String := none
  pasted : Option String := none
  caseSensitive : Option Bool := none
  fields : Option String := none
  deriving DecidableEq, Repr

/-- What to show and write of a run. -/
structure RunOptions where
  query : QueryOptions := {}
  csvFile : Option String := none
  bibtexFile : Option String := none
  showStatistics : Bool := false
  showHighlights : Bool := false
  showPartial : Bool := true
  deriving DecidableEq, Repr

/-- What is asked for. -/
inductive Command where
  | run (bibliography : String) (options : RunOptions)
  | parseQuery (text : String) (target base : Option String)
  | writeStarter (target : String) (force : Bool)
  | showQuery (file : String)
  deriving DecidableEq, Repr

/-! ## Checks -/

/-- The text names something that exists. -/
def pathExists (files : FileTree) (s : String) : Bool :=
  s ≠ "" && files.has (.ofString s)

/-- The value of an option must be a path that exists. -/
def checkPath (files : FileTree) (subject : String) (value : Option String) :
    Except Stop Unit :=
  match value with
  | none => .ok ()
  | some s =>
    if pathExists files s then .ok () else .error (.usage (.noSuchPath subject s))

/-- Read the words of a command whose help may be asked for. -/
def readCommand {κ : Type} [DecidableEq κ] (specs : List (OptionSpec κ)) (help : κ)
    (mixed : Bool) (words : List String) : Except Stop (Words κ) := do
  let specs := specs ++ [{ key := help, spellings := ["--help"] }]
  let w ← (readWords specs mixed words).mapError Stop.usage
  if w.has help then .error (.help true) else .ok w

/-- The only argument of a command. -/
def onlyArgument (name : String) (check : String → Except Stop Unit) (args : List String) :
    Except Stop String :=
  match args with
  | [] => .error (.usage (.missingArgument name))
  | arg :: rest => do
    check arg
    if rest = [] then .ok arg else .error (.usage (.extraArguments rest))

/-! ## Running a query -/

inductive RunOption where
  | queryConfig | query | caseSensitive | caseInsensitive | fields | exportCsv | exportBib
  | stats | highlight | showPartial | noPartial | help
  deriving DecidableEq, Repr

def runSpecs : List (OptionSpec RunOption) :=
  [{ key := .queryConfig, spellings := ["--query-config"], hasValue := true },
    { key := .query, spellings := ["--query"], hasValue := true },
    { key := .caseSensitive, spellings := ["--case-sensitive"] },
    { key := .caseInsensitive, spellings := ["--case-insensitive"] },
    { key := .fields, spellings := ["--fields"], hasValue := true },
    { key := .exportCsv, spellings := ["--export-csv"], hasValue := true },
    { key := .exportBib, spellings := ["--export-bib"], hasValue := true },
    { key := .stats, spellings := ["--stats"] },
    { key := .highlight, spellings := ["--highlight"] },
    { key := .showPartial, spellings := ["--partial"] },
    { key := .noPartial, spellings := ["--no-partial"] }]

/-- Stands for the standard input in the place of a bibliography. -/
def standardInput : String := "-"

def readRun (files : FileTree) (words : List String) : Except Stop Command := do
  let w ← readCommand runSpecs .help true words
  checkPath files "'--query-config'" (w.value? .queryConfig)
  let file ← onlyArgument "BIBFILE"
    (fun s => if s = standardInput then .ok () else checkPath files "'BIBFILE'" (some s))
    w.arguments
  .ok (.run file
    { query :=
        { queryFile := w.value? .queryConfig
          pasted := w.value? .query
          caseSensitive := w.choice? .caseSensitive .caseInsensitive
          fields := w.value? .fields }
      csvFile := w.value? .exportCsv
      bibtexFile := w.value? .exportBib
      showStatistics := w.has .stats
      showHighlights := w.has .highlight
      showPartial := (w.choice? .showPartial .noPartial).getD true })

/-! ## Handling queries -/

inductive ParseOption where
  | output | base | help
  deriving DecidableEq, Repr

def parseSpecs : List (OptionSpec ParseOption) :=
  [{ key := .output, spellings := ["--output", "-o"], hasValue := true },
    { key := .base, spellings := ["--base"], hasValue := true }]

def readParseQuery (files : FileTree) (words : List String) : Except Stop Command := do
  let w ← readCommand parseSpecs .help true words
  checkPath files "'--base'" (w.value? .base)
  let text ← onlyArgument "QUERY" (fun _ => .ok ()) w.arguments
  .ok (.parseQuery text (w.value? .output) (w.value? .base))

inductive InitOption where
  | force | help
  deriving DecidableEq, Repr

def readInit (words : List String) : Except Stop Command := do
  let w ← readCommand [{ key := .force, spellings := ["--force"] }] InitOption.help true words
  let target ← onlyArgument "PATH" (fun _ => .ok ()) w.arguments
  .ok (.writeStarter target (w.has .force))

/-- The option of commands that have no other. -/
inductive HelpOption where
  | help
  deriving DecidableEq, Repr

def readShow (files : FileTree) (words : List String) : Except Stop Command := do
  let w ← readCommand [] HelpOption.help true words
  let file ← onlyArgument "PATH" (fun s => checkPath files "'PATH'" (some s)) w.arguments
  .ok (.showQuery file)

/-- The name of a command and the words after it. -/
def splitCommand (args : List String) : Except Stop (String × List String) :=
  match args with
  | [] => .error (.usage .missingCommand)
  | name :: rest => .ok (name, rest)

/-- The names of the commands on saved queries. -/
def configNames : List String :=
  ["init", "show"]

/-- There is no such command. -/
def noSuchCommand {α : Type} (name : String) (names : List String) : Except Stop α :=
  .error (.usage (.noSuchCommand name (Text.nearest name names)))

def readConfig (files : FileTree) (words : List String) : Except Stop Command :=
  if words = [] then .error (.help false)
  else do
    let w ← readCommand [] HelpOption.help false words
    let (name, rest) ← splitCommand w.arguments
    if name = "init" then readInit rest
    else if name = "show" then readShow files rest
    else do
      -- Behind two dashes a command may look like an option.
      let _ ← readCommand [] HelpOption.help false (name :: rest)
      noSuchCommand name configNames

/-! ## The program -/

inductive GlobalOption where
  | verbose | quiet | noColor | debug | config | version | help
  deriving DecidableEq, Repr

def globalSpecs : List (OptionSpec GlobalOption) :=
  [{ key := .verbose, spellings := ["--verbose", "-v"] },
    { key := .quiet, spellings := ["--quiet", "-q"] },
    { key := .noColor, spellings := ["--no-color"] },
    { key := .debug, spellings := ["--debug"] },
    { key := .config, spellings := ["--config", "-c"], hasValue := true },
    { key := .version, spellings := ["--version"] },
    { key := .help, spellings := ["--help"] }]

/-- The names of the commands. -/
def commandNames : List String :=
  ["run", "parse-query", "config"]

/-- What stands before a command, and the words of the command. -/
structure Invocation where
  settingsFile : Option String := none
  /-- Errors leave the program instead of being reported. -/
  debug : Bool := false
  name : String
  words : List String
  deriving DecidableEq, Repr

/-- Read the options of the program. -/
def readGlobal (files : FileTree) (words : List String) : Except Stop (Words GlobalOption) := do
  let w ← (readWords globalSpecs false words).mapError Stop.usage
  match w.options.find? fun o => o.1 = .version ∨ o.1 = .help with
  | some (.version, _) => .error .version
  | some _ => .error (.help true)
  | none => do
    checkPath files "'--config' / '-c'" (w.value? .config)
    .ok w

/-- Read the options of the program and the name of a command. -/
def readInvocation (files : FileTree) (words : List String) : Except Stop Invocation :=
  if words = [] then .error (.help false)
  else do
    let w ← readGlobal files words
    let (name, rest) ← splitCommand w.arguments
    if commandNames.contains name then .ok ⟨w.value? .config, w.has .debug, name, rest⟩
    else do
      -- Behind two dashes a command may look like an option.
      let _ ← readGlobal files (name :: rest)
      noSuchCommand name commandNames

/-- Read the words of a command. -/
def readNamed (files : FileTree) (name : String) (words : List String) : Except Stop Command :=
  if name = "run" then readRun files words
  else if name = "parse-query" then readParseQuery files words
  else readConfig files words

end CiteSieve.CommandLine
