import CiteSieve.Regex

/-!
# Terms

A term is what a query looks for. A plain term is a word, found between word edges; a final star
makes it a stem, which word characters and hyphens may extend. In a block of regular expressions a
term with a metacharacter is used as it stands, and one that is no expression is looked for
literally.

* `compile`: the pattern of one term.
* `alternation`: one pattern for several terms, the longest first.
-/

namespace CiteSieve.Term

/-! ## Scope -/

/-- The characters that make a term a regular expression. -/
def isMetachar (c : Char) : Bool :=
  ".^$*+?()[]\x7b\x7d|\\".toList.contains c

/-- Some character of the term is a metacharacter. -/
def hasMetachar (term : String) : Bool :=
  term.toList.any isMetachar

/-- How a term is looked for. -/
inductive Scope where
  /-- As the expression that the term is. -/
  | verbatim (source : String)
  /-- Between word edges. -/
  | word (cs : List Char)
  /-- After a word edge, with all word characters and hyphens that follow. -/
  | stem (cs : List Char)
  deriving DecidableEq, Repr

/-- The scope of a term; `isRegex` says that its block holds regular expressions. -/
def scope (term : String) (isRegex : Bool) : Scope :=
  if isRegex && hasMetachar term then .verbatim term
  else if term.toList.getLast? = some '*' then .stem term.toList.dropLast
  else .word term.toList

/-- The expression as it is shown. -/
def Scope.source : Scope → String
  | .verbatim source => source
  | .word cs => String.ofList ("\\b".toList ++ Regex.escapeChars cs ++ "\\b".toList)
  | .stem cs => String.ofList ("\\b".toList ++ Regex.escapeChars cs ++ "[\\w-]*".toList)

/-- Word characters and hyphens. -/
def stemTail (fold : Fold) : CharTest :=
  .set [.kind .word false false, .code '-'.toNat] false fold

/-- A word between edges. -/
def wordRegex (fold : Fold) (cs : List Char) : Regex :=
  .seq .edge (.seq (.literal fold cs) .edge)

/-- A stem and all that extends it. -/
def stemRegex (fold : Fold) (cs : List Char) : Regex :=
  .seq .edge (.seq (.literal fold cs) (.repeat .greedy 0 none (.char (stemTail fold))))

/-- How letters compare. -/
def foldOf (caseInsensitive : Bool) : Fold :=
  if caseInsensitive then .unicode else .exact

/-! ## Patterns -/

/-- The term itself, wherever it stands. -/
def literalPattern (term : String) (caseInsensitive : Bool) : Pattern :=
  ⟨Regex.escape term, .literal (foldOf caseInsensitive) term.toList, 0⟩

/-- The pattern of a scope. -/
def Scope.pattern (s : Scope) (caseInsensitive : Bool) : Except Regex.Error Pattern :=
  match s with
  | .verbatim source => Pattern.parse source caseInsensitive
  | .word cs => .ok ⟨s.source, wordRegex (foldOf caseInsensitive) cs, 0⟩
  | .stem cs => .ok ⟨s.source, stemRegex (foldOf caseInsensitive) cs, 0⟩

/-- The pattern of a term; one that is no regular expression is looked for literally. -/
def compile (term : String) (isRegex caseInsensitive : Bool) : Except Regex.Error Pattern :=
  match (scope term isRegex).pattern caseInsensitive with
  | .error (.flaw _) => .ok (literalPattern term caseInsensitive)
  | r => r

/-! ## Several terms -/

/-- The term holds something else than blanks. -/
def isUsable (term : String) : Bool :=
  !Text.allBlank term

/-- `a` is looked for before `b`: the longer one first, then by code point. -/
def comesFirst (a b : String) : Bool :=
  decide (b.length < a.length) || (a.length == b.length && !decide (b < a))

/-- The usable terms, each once, the longest first. -/
def longestFirst (terms : List String) : List String :=
  (terms.filter isUsable).eraseDups.mergeSort comesFirst

/-- The expression that finds the first of several scopes that fits, as it is shown. -/
def alternationSource (scopes : List Scope) : String :=
  "|".intercalate (scopes.map fun s => "(?:" ++ s.source ++ ")")

/-- The expression of a scope that is not verbatim. -/
def Scope.plainRegex (fold : Fold) : Scope → Regex
  | .verbatim source => .literal fold source.toList
  | .word cs => wordRegex fold cs
  | .stem cs => stemRegex fold cs

/-- One pattern for several terms, the longest first; `none` if no term is usable or if their
expressions cannot be joined. -/
def alternation (terms : List String) (isRegex caseInsensitive : Bool) :
    Except Regex.Error (Option Pattern) :=
  match longestFirst terms with
  | [] => .ok none
  | ordered =>
    let scopes := ordered.map (scope · isRegex)
    let source := alternationSource scopes
    if isRegex then
      match Pattern.parse source caseInsensitive with
      | .ok p => .ok (some p)
      | .error (.flaw _) => .ok none
      | .error e => .error e
    else
      let fold := foldOf caseInsensitive
      .ok (some ⟨source, .ofAlt (scopes.map (Scope.plainRegex fold)), 0⟩)

/-- The patterns of the usable terms, the longest first. -/
def patterns (terms : List String) (isRegex caseInsensitive : Bool) :
    Except Regex.Error (List Pattern) :=
  (longestFirst terms).mapM (compile · isRegex caseInsensitive)

end CiteSieve.Term
