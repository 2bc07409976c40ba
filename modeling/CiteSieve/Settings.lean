import CiteSieve.Files.Tree
import CiteSieve.Text.Case
import CiteSieve.Text.Utf8
import CiteSieve.Yaml.Parser

/-!
# Settings

Settings are a mapping from names to values. They come from the file of the user, from the files
of the project in the working directory and from a file given by name, where a later file
overrides an earlier one, and at last from the environment.

* `Settings.load`: the settings of an environment and its files.
-/

namespace CiteSieve

/-- Variables that the program is run with. -/
abbrev Environment := Assoc String String

/-- Values by name. -/
abbrev Settings := Assoc String Yaml

/-- Why settings cannot be read. -/
inductive SettingsError where
  | unreadable (e : FileError)
  | undecodable (e : Text.Utf8Flaw)
  | invalid
  /-- The file holds something else than a mapping. -/
  | noMapping (path : String)
  deriving DecidableEq, Repr

def SettingsError.message : SettingsError → String
  | .unreadable e => "Error reading config file: " ++ e.message
  | .undecodable e => e.message
  | .invalid => "Invalid YAML in config file"
  | .noMapping path => s!"Config file {path} must contain a mapping"

namespace Settings

/-! ## Files -/

/-- The settings that a document holds; a document without a value holds none. -/
def ofYaml (p : Path) (v : Yaml) : Except SettingsError Settings :=
  match v with
  | .map members => .ok members
  | v => if v.isTruthy then .error (.noMapping p.toString) else .ok []

/-- The settings of a file. -/
def ofFile (files : FileTree) (p : Path) : Except SettingsError Settings :=
  match files.read p with
  | .error e => .error (.unreadable e)
  | .ok bytes =>
    match Text.decodeUtf8 bytes with
    | .error e => .error (.undecodable e.inChunk)
    | .ok text =>
      match Yaml.parse (Text.unifyLines text) with
      | .ok v => ofYaml p v
      | .error _ => .error .invalid

/-- The user's home directory: the one of the superuser if no variable names it. -/
def homeDirectory (env : Environment) : Path :=
  match env.lookup "HOME" with
  | some "" => .ofString "/"
  | some dir => .ofString dir
  | none => .ofString "/root"

/-- The directory of the user's settings. -/
def userDirectory (env : Environment) : Path :=
  match env.lookup "XDG_CONFIG_HOME" with
  | some dir => .ofString dir
  | none => (homeDirectory env).append (.ofString ".config")

/-- The files that are looked for, in order. -/
def paths (env : Environment) : List Path :=
  [(userDirectory env).append (.ofString "bibfilter/config.yaml"),
    .ofString ".bibfilter.yaml", .ofString "bibfilter.yaml"]

/-- The settings with those of a file on top. -/
def addFile (files : FileTree) (s : Settings) (p : Path) : Except SettingsError Settings :=
  (ofFile files p).map fun added => added.foldl (fun s kv => s.put kv.1 kv.2) s

/-! ## Environment -/

/-- The values of a variable that stand for yes. -/
def yesWords : List String :=
  ["1", "true", "yes"]

/-- The settings with those of the environment on top; an empty variable says nothing. -/
def addEnvironment (env : Environment) (s : Settings) : Settings :=
  let s := match env.lookup "BIBFILTER_QUERY_CONFIG" with
    | some v => if v = "" then s else s.put "query_config" (.str v)
    | none => s
  match env.lookup "BIBFILTER_CASE_SENSITIVE" with
  | some v =>
    if v = "" then s
    else s.put "case_insensitive" (.bool (!yesWords.contains (Text.lower v)))
  | none => s

/-! ## All sources -/

/-- The settings of an environment and its files; `extra` is the file given by name. -/
def load (env : Environment) (files : FileTree) (extra : Option Path) :
    Except SettingsError Settings := do
  let present := (paths env).filter files.has
  let s ← (present ++ extra.toList).foldlM (addFile files) []
  .ok (addEnvironment env s)

/-- The value under a name, if it counts as true. -/
def given? (s : Settings) (name : String) : Option Yaml :=
  (s.lookup name).filter Yaml.isTruthy

end Settings

end CiteSieve
