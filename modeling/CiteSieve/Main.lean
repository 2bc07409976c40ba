import CiteSieve.CommandLine.Mentions
import CiteSieve.Console.Plain

/-!
# The program on a terminal

Finds out what a command line mentions, carries it out, shows what it shows and writes the files
that it changes. All decisions are made by `CommandLine.execute`.
-/

namespace CiteSieve.Terminal

open CommandLine

/-- The variables that the program looks at. -/
def variableNames : List String :=
  ["HOME", "XDG_CONFIG_HOME", "BIBFILTER_QUERY_CONFIG", "BIBFILTER_CASE_SENSITIVE"]

/-- The variables that are set. -/
def readEnvironment : IO Environment := do
  let found ← variableNames.mapM fun name => do
    return (← IO.getEnv name).map fun value => (name, value)
  return found.filterMap id

/-- The bytes of what was opened; a directory can be opened but not read. -/
def readOpened (h : IO.FS.Handle) : IO FileNode := do
  try
    return .file (← h.readBinToEnd)
  catch _ => return .directory

/-- What a path names, if it names something. -/
def readNode (p : Path) : IO (Option FileNode) := do
  try
    return some (← readOpened (← IO.FS.Handle.mk p.toString .read))
  catch _ => return none

/-- What the paths name. -/
def readTree (paths : List Path) : IO FileTree := do
  let found ← paths.mapM fun p => do
    return (← readNode p).map fun n => (p.resolved, n)
  return found.filterMap id

/-- All lines of a stream. -/
partial def readAll (input : IO.FS.Stream) (text : String) : IO String := do
  let line ← input.getLine
  if line.isEmpty then return text else readAll input (text ++ line)

/-- What a command line finds. -/
def readWorkspace (words : List String) : IO Workspace := do
  let environment ← readEnvironment
  let input ← if words.contains standardInput then readAll (← IO.getStdin) "" else pure ""
  let files ← readTree (mentions { environment } words)
  let files ← readTree (mentions { files, environment } words)
  return { files, environment, input }

/-- Show and write what a command line leaves behind. -/
def settle (before : FileTree) (c : Conclusion) : IO Unit := do
  for d in c.session.shown do
    IO.println d.plain
  for (p, bytes) in c.session.files.changesSince before do
    IO.FS.createDirAll p.parent.toString
    IO.FS.writeBinFile p.toString bytes
  if c.exitCode = 0 then IO.print c.session.output else IO.eprint c.session.output
  if let some e := c.crash then IO.eprintln e.message

/-- Carry out a command line. -/
def run (words : List String) : IO UInt32 := do
  let w ← readWorkspace words
  let c := execute w words
  settle w.files c
  return c.exitCode.toUInt32

end CiteSieve.Terminal

def main (words : List String) : IO UInt32 :=
  CiteSieve.Terminal.run words
