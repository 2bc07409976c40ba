import CiteSieve.Field
import CiteSieve.Term
import CiteSieve.Text.Quoted

/-!
# Queries

A query is a list of blocks and a list of operators: the operator at position `i` joins the
blocks at positions `i` and `i + 1`. A block is a named group of terms; it fires on a record when
one of its terms hits, and an excluded block contributes the opposite. Names tell blocks apart in
what is reported about them.

A query is consistent when it has one operator between any two neighbouring blocks, and none
otherwise. Queries that are not consistent can be loaded and run.
-/

namespace CiteSieve

/-! ## Operators -/

/-- How two neighbouring blocks are joined. -/
inductive Operator where
  | and
  | or
  deriving DecidableEq, Repr

namespace Operator

def apply : Operator → Bool → Bool → Bool
  | .and, a, b => a && b
  | .or, a, b => a || b

/-- How an operator is written. -/
def name : Operator → String
  | .and => "AND"
  | .or => "OR"

/-- The operator that is written so. -/
def ofName? (s : String) : Option Operator :=
  [Operator.and, Operator.or].find? (·.name == s)

theorem ofName?_name (o : Operator) : ofName? o.name = some o := by
  cases o <;> decide

/-- A text that names no operator. -/
structure Unknown where
  name : String
  deriving DecidableEq, Repr

def Unknown.message (e : Unknown) : String :=
  Text.quoted e.name ++ " is not a valid Operator"

/-- The operator that is written so. -/
def ofName (s : String) : Except Unknown Operator :=
  match ofName? s with
  | some o => .ok o
  | none => .error ⟨s⟩

end Operator

/-! ## Blocks -/

/-- Stands for the identifier of a block that was given none. -/
def newBlockId : String := "<new>"

/-- A named group of terms. -/
structure Block where
  name : String
  terms : List String := []
  isRegex : Bool := false
  exclude : Bool := false
  id : String := newBlockId
  deriving DecidableEq, Repr

namespace Block

/-- The terms that hold something else than blanks. -/
def usableTerms (b : Block) : List String :=
  b.terms.filter Term.isUsable

/-- Some term is usable. -/
def isUsable (b : Block) : Bool :=
  b.usableTerms ≠ []

end Block

/-! ## Queries -/

/-- Blocks joined by operators, and what they are matched against. -/
structure Query where
  blocks : List Block := []
  operators : List Operator := []
  caseInsensitive : Bool := true
  searchFields : Selection := {}
  deriving DecidableEq, Repr

namespace Query

/-- One operator between any two neighbouring blocks. -/
def isConsistent (q : Query) : Bool :=
  q.operators.length == q.blocks.length - 1

/-- The blocks that have usable terms, in order. -/
def usableBlocks (q : Query) : List Block :=
  q.blocks.filter Block.isUsable

/-- The names of the blocks in order. -/
def blockNames (q : Query) : List String :=
  q.blocks.map Block.name

/-- No two blocks share a name. -/
def hasUniqueNames (q : Query) : Bool :=
  decide q.blockNames.Nodup

/-- The names that several blocks share, in order of code points. -/
def sharedNames (q : Query) : List String :=
  Selection.sortedNames (q.blockNames.filter fun n => decide (1 < q.blockNames.count n))

end Query

end CiteSieve
