import CiteSieve.CommandLine.Resolve
import CiteSieve.Console.Display
import CiteSieve.Query.Printer
import CiteSieve.Run

/-!
# Sessions

What a command does: it shows things on the console, reads and writes files, and ends with an
exit code or with an error that leaves the program. What was shown and written before the end
stays.
-/

namespace CiteSieve.CommandLine

/-! ## Ends -/

/-- An error that leaves the program. -/
inductive Crash where
  | settings (e : SettingsError)
  | setting (e : SettingFault)
  | load (e : LoadError)
  | noEntries (e : Bibtex.NoEntries)
  | badTerm (e : Regex.Error)
  | missingOperator (e : Query.MissingOperator)
  | file (e : FileError)
  | tag (e : Console.UnmatchedTag)
  deriving DecidableEq, Repr

def Crash.message : Crash → String
  | .settings e => e.message
  | .setting e => e.message
  | .load e => e.message
  | .noEntries e => e.message
  | .badTerm e => e.message
  | .missingOperator e => e.message
  | .file e => e.message
  | .tag e => e.message

/-- How a command ends before it is through. -/
inductive Ending where
  | exit (code : Nat)
  | usage (e : UsageError)
  | crash (c : Crash)
  deriving DecidableEq, Repr

/-! ## Sessions -/

/-- What a command finds. -/
structure Workspace where
  files : FileTree := []
  environment : Environment := []
  /-- The text of the standard input. -/
  input : String := ""

/-- What a command has done so far. -/
structure Session where
  files : FileTree
  /-- What was shown, tags taken out. -/
  shown : List Console.Display := []
  /-- Plain text outside the console. -/
  output : String := ""

/-- Something a command does. -/
abbrev Effect := ExceptT Ending (StateM Session)

namespace Effect

/-- End with an error. -/
def crash {α : Type} (c : Crash) : Effect α :=
  throw (.crash c)

/-- The result, or the end that its error leads to. -/
def orElse {ε α : Type} (r : Except ε α) (fail : ε → Effect α) : Effect α :=
  match r with
  | .ok a => pure a
  | .error e => fail e

/-- The result, or the end with its error. -/
def orCrash {ε α : Type} (crash : ε → Crash) (r : Except ε α) : Effect α :=
  orElse r fun e => Effect.crash (crash e)

/-- Show something. -/
def display (d : Console.Display) : Effect Unit := do
  let d ← orCrash .tag d.shown
  modify fun s => { s with shown := s.shown ++ [d] }

/-- Show a line. -/
def line (text : String) : Effect Unit :=
  display (.line text)

/-- Show a table. -/
def table (t : Console.Table) : Effect Unit :=
  display (.table t)

/-- Write plain text outside the console. -/
def print (text : String) : Effect Unit :=
  modify fun s => { s with output := s.output ++ text }

/-- Write a file, whose directory is made if there is none. -/
def writeFile (p : Path) (text : String) : Effect Unit := do
  let files := (← get).files
  let files ← orCrash .file (files.makeDirectory p.parent)
  let files ← orCrash .file (files.write p text.toUTF8)
  modify fun s => { s with files }

end Effect

/-! ## Conclusions -/

/-- What a command leaves behind. -/
structure Conclusion where
  exitCode : Nat
  crash : Option Crash := none
  session : Session

/-- The exit code of a command line that cannot be read. -/
def usageCode : Nat := 2

/-- What an action leaves behind. -/
def Effect.conclude (a : Effect Unit) (s : Session) : Conclusion :=
  match a.run.run s with
  | (.ok (), s) => ⟨0, none, s⟩
  | (.error (.exit code), s) => ⟨code, none, s⟩
  | (.error (.usage e), s) =>
    ⟨usageCode, none, { s with output := s.output ++ "Error: " ++ e.message ++ "\n" }⟩
  | (.error (.crash c), s) => ⟨1, some c, s⟩

end CiteSieve.CommandLine
