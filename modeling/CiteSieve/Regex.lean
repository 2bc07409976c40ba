import CiteSieve.Regex.Match
import CiteSieve.Regex.Parser

/-!
# Patterns

A pattern is an expression ready to search with: its source text, its tree and its number of
groups.
-/

namespace CiteSieve

/-- A regular expression with the text it is shown as. -/
structure Pattern where
  source : String
  regex : Regex
  groupCount : Nat := 0
  deriving DecidableEq, Repr

namespace Pattern

/-- Case matters unless `caseInsensitive`. -/
def flags (caseInsensitive : Bool) : Regex.Flags :=
  { ignoreCase := caseInsensitive }

/-- The pattern that a text writes. -/
def parse (source : String) (caseInsensitive : Bool) : Except Regex.Error Pattern :=
  (Regex.parse (flags caseInsensitive) source).map fun p => ⟨source, p.regex, p.groupCount⟩

/-- The first match in `text` from `start` on, or at its end if that comes before `start`. -/
def search? (p : Pattern) (text : String) (start : Nat) : Option Regex.Match :=
  p.regex.search? text.toList.toArray p.groupCount start

end Pattern

end CiteSieve
