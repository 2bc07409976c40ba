import CiteSieve.CommandLine.Command
import CiteSieve.Query.Default
import CiteSieve.Query.Pasted
import CiteSieve.Query.Saved
import CiteSieve.Settings

/-!
# The query to run

The query of a file, which an option or a setting names, or else the starting query; a pasted
query takes the place of its blocks, and options and settings that of its flags. Options come
before settings.

* `resolveQuery`: the query that options, settings and files make.
-/

namespace CiteSieve.CommandLine

/-! ## Settings of the wrong kind -/

/-- A setting is of a kind that cannot be used. -/
inductive SettingFault where
  | noPath (kind : String)
  | noList (kind : String)
  /-- A member of a list of names is no text. -/
  | noName (kind : String)
  /-- A path begins with the home directory of an unknown user. -/
  | noHome
  deriving DecidableEq, Repr

def SettingFault.message : SettingFault → String
  | .noPath kind => s!"expected str, bytes or os.PathLike object, not {kind}"
  | .noList kind => s!"'{kind}' object is not iterable"
  | .noName kind => s!"'{kind}' object has no attribute 'strip'"
  | .noHome => "Could not determine home directory."

/-- The path that a setting names. -/
def settingPath : Yaml → Except SettingFault Path
  | .str s => .ok (.ofString s)
  | v => .error (.noPath v.kind)

/-- The name that a member of a setting is. -/
def settingName : Yaml → Except SettingFault String
  | .str s => .ok s
  | v => .error (.noName v.kind)

/-- The names that a text lists, between commas. -/
def listedNames (s : String) : List String :=
  (s.toList.splitOn ',').map String.ofList

/-- The names that a setting lists. -/
def settingNames : Yaml → Except SettingFault (List String)
  | .str s => .ok (listedNames s)
  | .list items => items.mapM settingName
  | .map members => .ok (members.map Prod.fst)
  | v => .error (.noList v.kind)

/-! ## Resolving -/

/-- Why there is no query to run. -/
inductive ResolveError where
  | load (e : LoadError)
  | setting (e : SettingFault)
  | fields (e : Selection.UnknownFields)
  deriving DecidableEq, Repr

/-- The file of the query, if one is named. -/
def queryPath? (settings : Settings) (o : QueryOptions) : Except SettingFault (Option Path) :=
  match o.queryFile, settings.given? "query_config" with
  | some s, _ => .ok (some (.ofString s))
  | none, some v => (settingPath v).map some
  | none, none => .ok none

/-- The query before options and settings change it. -/
def baseQuery (files : FileTree) (settings : Settings) (o : QueryOptions) :
    Except ResolveError Query := do
  match ← (queryPath? settings o).mapError .setting with
  | some p => (Query.loadFile files p).mapError .load
  | none => .ok .starter

/-- The query with the pasted blocks in place of its own. -/
def paste (o : QueryOptions) (q : Query) : Query :=
  (o.pasted.bind (Pasted.substitute? q)).getD q

/-- A query is pasted that holds no term. -/
def pastedInVain (o : QueryOptions) : Bool :=
  o.pasted.any fun s => (Pasted.parse? s).isNone

/-- The case flag that options and settings ask for. -/
def caseInsensitive? (settings : Settings) (o : QueryOptions) : Option Bool :=
  match o.caseSensitive with
  | some b => some !b
  | none => (settings.lookup "case_insensitive").map Yaml.isTruthy

/-- The names of the fields that options and settings ask for. -/
def fieldNames? (settings : Settings) (o : QueryOptions) :
    Except SettingFault (Option (List String)) :=
  match o.fields.filter (· ≠ ""), settings.given? "search_fields" with
  | some s, _ => .ok (some (listedNames s))
  | none, some v => (settingNames v).map some
  | none, none => .ok none

/-- The query with the flags that options and settings ask for. -/
def adjust (settings : Settings) (o : QueryOptions) (q : Query) : Except ResolveError Query := do
  let q := { q with caseInsensitive := (caseInsensitive? settings o).getD q.caseInsensitive }
  match ← (fieldNames? settings o).mapError .setting with
  | some names =>
    let searchFields ← (Selection.ofNames names).mapError .fields
    .ok { q with searchFields }
  | none => .ok q

/-- The query that options, settings and files make. -/
def resolveQuery (files : FileTree) (settings : Settings) (o : QueryOptions) :
    Except ResolveError Query := do
  let q ← baseQuery files settings o
  adjust settings o (paste o q)

/-! ## Exports -/

/-- The path with the user's home directory in the place of a tilde. -/
def expandHome (env : Environment) (p : Path) : Except SettingFault Path :=
  match p.isAbsolute, p.names with
  | false, name :: names =>
    if name = "~" then .ok ((Settings.homeDirectory env).append { names })
    else if name.toList.head? = some '~' then .error .noHome
    else .ok p
  | _, _ => .ok p

/-- Where an export is written: relative paths lead to the directory that a setting names. -/
def exportPath (env : Environment) (settings : Settings) (s : String) :
    Except SettingFault Path :=
  let p := Path.ofString s
  match settings.given? "export_dir" with
  | some v =>
    if p.isAbsolute then .ok p
    else do
      let dir ← settingPath v
      let dir ← expandHome env dir
      .ok (dir.append p)
  | none => .ok p

end CiteSieve.CommandLine
