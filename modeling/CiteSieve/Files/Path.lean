/-!
# Paths

A path is a list of names, which starts at the root or at the working directory. Empty names and
single dots say nothing.
-/

namespace CiteSieve

/-- The name of a file or a directory. -/
structure Path where
  isAbsolute : Bool := false
  names : List String := []
  deriving DecidableEq, Repr

namespace Path

/-- The path that a text writes. -/
def ofString (s : String) : Path :=
  { isAbsolute := s.toList.head? = some '/'
    names := ((s.toList.splitOn '/').map String.ofList).filter fun n => n ≠ "" ∧ n ≠ "." }

/-- How a path is written; the working directory is a dot. -/
def toString (p : Path) : String :=
  let names := "/".intercalate p.names
  if p.isAbsolute then "/" ++ names else if p.names = [] then "." else names

/-- `q` as seen from `p`. -/
def append (p q : Path) : Path :=
  if q.isAbsolute then q else { p with names := p.names ++ q.names }

/-- The directory that holds the path. -/
def parent (p : Path) : Path :=
  { p with names := p.names.dropLast }

/-- The directories on the way to the path, without the one where it starts. -/
def ancestors (p : Path) : List Path :=
  (List.range (p.names.length - 1)).map fun n => { p with names := p.names.take (n + 1) }

/-- The names that lead to the path, parents followed back. -/
def resolve (names : List String) : List String :=
  (names.foldl (fun up n => if n = ".." then up.tail else n :: up) []).reverse

/-- The path without steps back to a parent. -/
def resolved (p : Path) : Path :=
  { p with names := resolve p.names }

end Path

end CiteSieve
