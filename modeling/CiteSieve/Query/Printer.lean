import CiteSieve.Query.Basic

/-!
# Writing a query

A query is written in the form that search pages use: usable terms joined by `OR`, in parentheses
if there are several, `NOT` before an excluded block, and the operators between the blocks as they
stand. Blocks without usable terms are left out, and the operator before a block is the one at the
position before it.

* `Query.toText` fails when there is no operator at the position that is asked for.
-/

namespace CiteSieve

/-- A term, in double quotes if it holds a space. -/
def printTerm (term : String) : String :=
  if term.toList.contains ' ' then "\"" ++ term ++ "\"" else term

/-- A block that has usable terms. -/
def Block.toText (b : Block) : String :=
  let terms := " OR ".intercalate (b.usableTerms.map printTerm)
  let group := if 1 < b.usableTerms.length then "(" ++ terms ++ ")" else terms
  if b.exclude then "NOT " ++ group else group

namespace Query

/-- A query has no operator where one is to be written. -/
structure MissingOperator where
  index : Nat
  deriving DecidableEq, Repr

def MissingOperator.message (_ : MissingOperator) : String :=
  "tuple index out of range"

/-- The operators and blocks to write, from the block at position `index` on; `started` says that
something has been written before. -/
def partsFrom (operators : List Operator) :
    (index : Nat) → (started : Bool) → List Block → Except MissingOperator (List String)
  | _, _, [] => .ok []
  | index, started, b :: bs =>
    if !b.isUsable then partsFrom operators (index + 1) started bs
    else if started then
      match operators[index - 1]? with
      | some o => (partsFrom operators (index + 1) true bs).map fun ps => o.name :: b.toText :: ps
      | none => .error ⟨index - 1⟩
    else (partsFrom operators (index + 1) true bs).map fun ps => b.toText :: ps

/-- The query as it would be pasted. -/
def toText (q : Query) : Except MissingOperator String :=
  (partsFrom q.operators 0 false q.blocks).map fun ps => " ".intercalate ps

end Query

end CiteSieve
