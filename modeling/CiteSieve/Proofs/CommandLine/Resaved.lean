import CiteSieve.CommandLine.Program
import CiteSieve.Proofs.CommandLine.Sessions
import CiteSieve.Proofs.Query.Saved
import CiteSieve.Proofs.Report.Verbatim
import CiteSieve.Proofs.Run.Identifiers

/-!
# Pasting a query and saving it first

A query string can be pasted over the query of a file, or turned into a saved query first, which is
then run. Both ways lead to the same query but for identifiers, whatever options and settings
change its flags, and so to the same runs.

The command that saves shows the blocks first. Their names and terms are escaped, so they are shown
whatever tags they look like, and nothing but the file itself can keep the query from being saved.

* `resolveQuery_saved`, `resolveQuery_pasted`: the query that each way leads to.
* `Context.files_parseQuery`: what the command saves.
* `Context.parseQuery_resaves`: what is saved, and what it is worth.
-/

namespace CiteSieve

/-! ## Pasted blocks -/

/-- The query with the pasted blocks in place of its own. -/
def Pasted.Groups.over (g : Pasted.Groups) (q : Query) : Query :=
  { q with blocks := g.blocks, operators := g.operators }

theorem Pasted.substitute?_eq {s : String} {g : Pasted.Groups} (hg : Pasted.parse? s = some g)
    (q : Query) : Pasted.substitute? q s = some (g.over q) := by
  rw [Pasted.substitute?, hg]
  rfl

namespace CommandLine

open Console (Display)

/-- Run the query of a file as it is. -/
def QueryOptions.ofFile (o : QueryOptions) (file : String) : QueryOptions :=
  { o with queryFile := some file, pasted := none }

/-- Paste a query over that of a base file, if there is one. -/
def QueryOptions.pasteOver (o : QueryOptions) (base : Option String) (s : String) :
    QueryOptions :=
  { o with queryFile := base, pasted := some s }

/-- The query that a pasted one keeps the flags of when it is saved. -/
def Context.savedBase (c : Context) (base : Option String) : Except LoadError Query :=
  match base with
  | some file => Query.loadFile c.workspace.files (.ofString file)
  | none => .ok {}

/-! ## Resolving -/

section

variable {files : FileTree} {settings : Settings} {o : QueryOptions}

/-- Options and settings change flags only. -/
theorem adjust_anonymous (q : Query) :
    (adjust settings o q).map Query.anonymous = adjust settings o q.anonymous := by
  unfold adjust
  rcases fieldNames? settings o with e | _ | names
  · rfl
  · rfl
  · dsimp only [Except.mapError, bind, Except.bind]
    cases Selection.ofNames names <;> rfl

theorem resolveQuery_of_baseQuery {q : Query} (h : baseQuery files settings o = .ok q) :
    resolveQuery files settings o = adjust settings o (paste o q) := by
  unfold resolveQuery
  rw [h]
  rfl

theorem baseQuery_of_loadFile {file : String} {q : Query} (ho : o.queryFile = some file)
    (h : Query.loadFile files (.ofString file) = .ok q) : baseQuery files settings o = .ok q := by
  have hpath : queryPath? settings o = .ok (some (.ofString file)) := by
    rw [queryPath?, ho]
  unfold baseQuery
  rw [hpath]
  dsimp only [Except.mapError, bind, Except.bind]
  rw [h]

/-- **The query of a file** that a query was saved to. -/
theorem resolveQuery_saved {file : String} {q : Query}
    (h : files.read (.ofString file) = .ok q.save.toUTF8) :
    resolveQuery files settings (o.ofFile file) = adjust settings o q := by
  have hload : Query.loadFile files (.ofString file) = .ok q := by
    rw [Query.loadFile, h]
    exact (Query.load_save q _).2
  have hbase : baseQuery files settings (o.ofFile file) = .ok q :=
    baseQuery_of_loadFile rfl hload
  rw [resolveQuery_of_baseQuery hbase]
  rfl

/-- **The query that is pasted** over the query of a base file, or over the starting query. -/
theorem resolveQuery_pasted {c : Context} {base : Option String} {q : Query} {s : String}
    {g : Pasted.Groups} (hg : Pasted.parse? s = some g) (hbase : c.savedBase base = .ok q)
    (hsetting : base = none → c.settings.given? "query_config" = none) :
    resolveQuery c.workspace.files c.settings (o.pasteOver base s) =
      adjust c.settings o (g.over q) := by
  have hpaste : ∀ q', paste (o.pasteOver base s) q' = g.over q' := by
    intro q'
    have hpasted : (o.pasteOver base s).pasted = some s := rfl
    rw [paste, hpasted, Option.bind_some, Pasted.substitute?_eq hg, Option.getD_some]
  cases base with
  | none =>
    -- The starting query and a new one have the same flags, and the blocks are replaced.
    have hflags : g.over q = g.over Query.starter := by
      cases hbase
      rfl
    have hstart : baseQuery c.workspace.files c.settings (o.pasteOver none s) =
        .ok Query.starter := by
      have hpath : queryPath? c.settings (o.pasteOver none s) = .ok none := by
        have hfile : (o.pasteOver none s).queryFile = none := rfl
        rw [queryPath?, hfile, hsetting rfl]
      unfold baseQuery
      rw [hpath]
      rfl
    rw [resolveQuery_of_baseQuery hstart, hpaste, hflags]
    rfl
  | some file =>
    rw [resolveQuery_of_baseQuery (baseQuery_of_loadFile rfl hbase), hpaste]
    rfl

end

/-! ## Saving -/

namespace Context

variable {c : Context} {s target : String} {base : Option String} {q : Query}
  {g : Pasted.Groups} {σ : Session}

/-- What is left to do once the base is there and the query string has blocks. -/
theorem run_parseQuery (hg : Pasted.parse? s = some g) (hbase : c.savedBase base = .ok q) :
    (c.parseQuery s (some target) base).run.run σ = (do
      Effect.table (Report.blockTable (g.over q))
      Effect.writeFile (.ofString target) (g.over q).save
      Effect.line
        s!"[green]✓[/green] Saved query configuration to {(Path.ofString target).toString}" :
        Effect Unit).run.run σ := by
  unfold parseQuery
  cases base with
  | none =>
    cases hbase
    rw [Effect.run_bind_ok (rfl : (pure {} : Effect Query).run.run σ = _)]
    dsimp only
    rw [Pasted.substitute?_eq hg]
  | some file =>
    have hfile : Query.loadFile c.workspace.files (.ofString file) = .ok q := hbase
    rw [Effect.run_bind_ok (Effect.run_orElse_ok hfile)]
    dsimp only
    rw [Pasted.substitute?_eq hg]

/-- **What is saved:** if the file can be written, the command leaves the base with the pasted
blocks in it, and touches nothing else. -/
theorem files_parseQuery {t t' : FileTree} (hg : Pasted.parse? s = some g)
    (hbase : c.savedBase base = .ok q)
    (hdir : σ.files.makeDirectory (Path.ofString target).parent = .ok t)
    (hwrite : t.write (.ofString target) (g.over q).save.toUTF8 = .ok t') :
    ((c.parseQuery s (some target) base).conclude σ).session.files = t' := by
  obtain ⟨d, hd⟩ : ∃ d, (Display.table (Report.blockTable (g.over q))).shown = .ok d := by
    obtain ⟨table, htable⟩ := Report.exists_shown_blockTable (g.over q)
    exact ⟨.table table, by rw [Display.shown, htable]; rfl⟩
  have hsave := Effect.run_writeFile_ok (s := { σ with shown := σ.shown ++ [d] }) hdir hwrite
  rw [Effect.files_conclude, run_parseQuery hg hbase,
    Effect.run_bind_ok (Effect.run_table_ok hd), Effect.run_bind_ok hsave]
  exact Effect.files_display _

/-- What pasting a query string and saving it first have in common, where saving means that the
pasted blocks `g` are put into the base `q`. -/
structure Resaves (c : Context) (s target : String) (base : Option String) (g : Pasted.Groups)
    (q : Query) : Prop where
  /-- The file is saved if it can be written. -/
  saved : ∀ {t t'},
    c.workspace.files.makeDirectory (Path.ofString target).parent = .ok t →
    t.write (.ofString target) (g.over q).save.toUTF8 = .ok t' →
    ((c.parseQuery s (some target) base).conclude { files := c.workspace.files }).session.files.read
      (.ofString target) = .ok (g.over q).save.toUTF8
  /-- The saved query, whatever its blocks are identified by, is the pasted one. -/
  resolved : ∀ {files : FileTree} {q' : Query}, q'.SameButIds (g.over q) →
    files.read (.ofString target) = .ok q'.save.toUTF8 → ∀ o : QueryOptions,
    (resolveQuery files c.settings (o.ofFile target)).map Query.anonymous =
      (resolveQuery c.workspace.files c.settings (o.pasteOver base s)).map Query.anonymous
  /-- Both have the same runs: buckets, hits, counts, statistics and highlights. -/
  runs : ∀ {files : FileTree} {q' : Query}, q'.SameButIds (g.over q) →
    files.read (.ofString target) = .ok q'.save.toUTF8 → ∀ (o : QueryOptions) (rs : List Record),
    (resolveQuery files c.settings (o.ofFile target)).map (Run.ofRecords · rs) =
      (resolveQuery c.workspace.files c.settings (o.pasteOver base s)).map (Run.ofRecords · rs)

/-- **Pasting a query string and saving it first are the same.** What a query string with blocks is
saved as leads to the query that pasting it leads to, but for identifiers, and to the same runs;
without a base file, and without a setting that names one, as with it. -/
theorem parseQuery_resaves (c : Context) (s target : String) (base : Option String)
    {g : Pasted.Groups} {q : Query} (hg : Pasted.parse? s = some g)
    (hbase : c.savedBase base = .ok q)
    (hsetting : base = none → c.settings.given? "query_config" = none) :
    c.Resaves s target base g q := by
  have hresolved : ∀ {files : FileTree} {q' : Query}, q'.SameButIds (g.over q) →
      files.read (.ofString target) = .ok q'.save.toUTF8 → ∀ o : QueryOptions,
      (resolveQuery files c.settings (o.ofFile target)).map Query.anonymous =
        (resolveQuery c.workspace.files c.settings (o.pasteOver base s)).map
          Query.anonymous := by
    intro files q' hq' hread o
    rw [resolveQuery_saved hread, resolveQuery_pasted hg hbase hsetting, adjust_anonymous,
      adjust_anonymous, hq']
  -- The run of a query is the run of the query without identifiers.
  have hruns : ∀ (r : Except ResolveError Query) (rs : List Record),
      r.map (Run.ofRecords · rs) = (r.map Query.anonymous).map (Run.ofRecords · rs) := by
    intro r rs
    cases r with
    | error e => rfl
    | ok q => exact congrArg Except.ok (Run.ofRecords_anonymous q rs).symm
  refine ⟨fun hdir hwrite => ?_, hresolved, fun hq' hread o rs => ?_⟩
  · rw [files_parseQuery hg hbase hdir hwrite]
    exact FileTree.read_of_write hwrite
  · rw [hruns, hresolved hq' hread, ← hruns]

/-- A saved query with flags of its own. -/
def flagged : Query where
  blocks := [{ name := "VR", terms := ["virtual reality"] }]
  caseInsensitive := false
  searchFields := { title := false }

/-- A workspace with one saved query. -/
def shelf : Context where
  workspace := { files := [(⟨false, ["base.json"]⟩, .file flagged.save.toUTF8)] }

/-- The blocks of a query string. -/
def pastedGroups : Pasted.Groups where
  blocks := [{ name := "Group 1", terms := ["a"] },
    { name := "Group 2", terms := ["b", "c"], exclude := true }]
  operators := [.and]

/-- Over the saved query the query string is saved in a new directory; from there it leads to the
query that it leads to when it is pasted, and so it does without a base. -/
theorem parseQuery_resaves_shelf :
    ((shelf.parseQuery "a AND NOT (b OR c)" (some "out/q.json") (some "base.json")).conclude
      { files := shelf.workspace.files }).session.files.read (.ofString "out/q.json") =
        .ok (pastedGroups.over flagged).save.toUTF8 ∧
    (∀ (files : FileTree) (o : QueryOptions) (rs : List Record),
      files.read (.ofString "out/q.json") = .ok (pastedGroups.over flagged).save.toUTF8 →
      (resolveQuery files [] (o.ofFile "out/q.json")).map (Run.ofRecords · rs) =
        (resolveQuery shelf.workspace.files [] (o.pasteOver (some "base.json")
          "a AND NOT (b OR c)")).map (Run.ofRecords · rs)) ∧
    ∀ (files : FileTree) (o : QueryOptions),
      files.read (.ofString "q.json") = .ok (pastedGroups.over {}).save.toUTF8 →
      (resolveQuery files [] (o.ofFile "q.json")).map Query.anonymous =
        (resolveQuery shelf.workspace.files [] (o.pasteOver none "a AND NOT (b OR c)")).map
          Query.anonymous := by
  have hg : Pasted.parse? "a AND NOT (b OR c)" = some pastedGroups := rfl
  have hread : shelf.workspace.files.read (.ofString "base.json") = .ok flagged.save.toUTF8 := rfl
  have hbase : shelf.savedBase (some "base.json") = .ok flagged := by
    unfold savedBase Query.loadFile
    dsimp only
    rw [hread]
    exact (Query.load_save flagged _).2
  obtain ⟨hsaved, -, hruns⟩ := parseQuery_resaves shelf "a AND NOT (b OR c)" "out/q.json"
    (some "base.json") hg hbase nofun
  obtain ⟨-, hresolved, -⟩ := parseQuery_resaves shelf "a AND NOT (b OR c)" "q.json" none hg rfl
    fun _ => rfl
  exact ⟨hsaved rfl rfl, fun files o rs h => hruns rfl h o rs,
    fun files o h => hresolved rfl h o⟩

end Context

end CommandLine

end CiteSieve
