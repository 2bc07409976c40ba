import CiteSieve.Query.Basic

/-!
# Editing a query

Blocks are inserted together with one `AND` and removed together with one operator, so that a
consistent query stays consistent. Inserting takes any position, the nearest one that exists;
removing takes a position that exists; updating a block and setting an operator also count from
the end.

* `remove` can fail on a query that is not consistent, for want of an operator to remove.
-/

namespace CiteSieve

/-- Why an edit is refused. -/
inductive EditError where
  /-- There is no block at the position. -/
  | noBlock (index : Int)
  /-- There is no block to update. -/
  | noBlockToUpdate
  /-- There is no operator to set or to remove. -/
  | noOperator
  /-- A block has no such attribute. -/
  | noAttribute (name : String)
  | unknownOperator (e : Operator.Unknown)
  deriving DecidableEq, Repr

def EditError.message : EditError → String
  | .noBlock index => s!"Block index out of range: {index}"
  | .noBlockToUpdate => "list index out of range"
  | .noOperator => "list assignment index out of range"
  | .noAttribute name => "`Block` has no field '" ++ name ++ "'"
  | .unknownOperator e => e.message

/-- A change of one attribute of a block. -/
inductive BlockChange where
  | name (name : String)
  | terms (terms : List String)
  | isRegex (isRegex : Bool)
  | exclude (exclude : Bool)
  | id (id : String)
  /-- An attribute that blocks do not have. -/
  | other (name : String)
  deriving DecidableEq, Repr

/-- Make a change. -/
def Block.change (b : Block) : BlockChange → Except EditError Block
  | .name name => .ok { b with name }
  | .terms terms => .ok { b with terms }
  | .isRegex isRegex => .ok { b with isRegex }
  | .exclude exclude => .ok { b with exclude }
  | .id id => .ok { b with id }
  | .other name => .error (.noAttribute name)

/-- The position in a list of `n` members that `index` names; negative ones count from the end. -/
def position? (n : Nat) (index : Int) : Option Nat :=
  let i := if index < 0 then index + n else index
  if 0 ≤ i ∧ i < n then some i.toNat else none

namespace Query

/-- The block that is inserted when none is given. -/
def blankBlock (q : Query) : Block :=
  { name := s!"Block {q.blocks.length + 1}", terms := [""] }

/-- The position nearest to `index` at which a block can be inserted. -/
def clampIndex (q : Query) (index : Int) : Nat :=
  min index.toNat q.blocks.length

/-- Insert a block, and an `AND` if there are blocks already. -/
def insert (q : Query) (index : Int) (block : Option Block) : Query :=
  let i := q.clampIndex index
  { q with
    blocks := q.blocks.insertIdx i (block.getD q.blankBlock)
    operators :=
      if q.blocks.isEmpty then q.operators
      else q.operators.insertIdx (min i q.operators.length) .and }

/-- Remove the block at `index` and the operator before it, or the first one. -/
def remove (q : Query) (index : Int) : Except EditError Query :=
  if 0 ≤ index ∧ index < q.blocks.length then
    let i := index.toNat
    let blocks := q.blocks.eraseIdx i
    if q.operators.isEmpty then .ok { q with blocks }
    else if i - 1 < q.operators.length then
      .ok { q with blocks, operators := q.operators.eraseIdx (i - 1) }
    else .error .noOperator
  else .error (.noBlock index)

/-- Change attributes of the block at `index`. -/
def update (q : Query) (index : Int) (changes : List BlockChange) : Except EditError Query := do
  let some i := position? q.blocks.length index | .error .noBlockToUpdate
  let some block := q.blocks[i]? | .error .noBlockToUpdate
  let changed ← changes.foldlM Block.change block
  .ok { q with blocks := q.blocks.set i changed }

/-- Set the operator at `index` to the one that is written `name`. -/
def setOperator (q : Query) (index : Int) (name : String) : Except EditError Query :=
  match Operator.ofName name with
  | .error e => .error (.unknownOperator e)
  | .ok o =>
    match position? q.operators.length index with
    | some i => .ok { q with operators := q.operators.set i o }
    | none => .error .noOperator

end Query

end CiteSieve
