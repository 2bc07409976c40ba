import CiteSieve.CommandLine.Program

/-!
# Paths that a command line mentions

What has to be known of the outside before a command line can be carried out: the paths in its
words, those of settings files, and those that the settings name.

* `mentions`: the paths, of which more are found once the settings files are known.
-/

namespace CiteSieve.CommandLine

/-- The texts in a word that may be paths: the word, the value after an equals sign, and the one
after a short option. -/
def pathTexts (word : String) : List String :=
  let cs := word.toList
  let value := (cs.dropWhile (· ≠ '=')).tail?
  word :: (value.toList ++ (if cs.head? = some '-' then [cs.drop 2] else [])).map String.ofList

/-- The settings as far as the files of the workspace are known. -/
def knownSettings (w : Workspace) (words : List String) : Settings :=
  let extra := match readInvocation w.files words with
    | .ok i => i.settingsFile.map Path.ofString
    | .error _ => none
  ((Settings.load w.environment w.files extra).toOption).getD []

/-- The paths that the settings name for a command line. -/
def settingPaths (env : Environment) (s : Settings) (words : List String) : List Path :=
  (((s.given? "query_config").bind fun v => (settingPath v).toOption).toList) ++
    (words.flatMap pathTexts).filterMap fun word => (exportPath env s word).toOption

/-- The paths of which something has to be known, with the directories on the way to them. -/
def mentions (w : Workspace) (words : List String) : List Path :=
  let paths := Settings.paths w.environment ++ (words.flatMap pathTexts).map Path.ofString ++
    settingPaths w.environment (knownSettings w words) words
  (paths.flatMap fun p => p.ancestors ++ [p]).eraseDups

end CiteSieve.CommandLine
