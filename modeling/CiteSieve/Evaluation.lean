import CiteSieve.Hits
import CiteSieve.Query.Basic
import CiteSieve.Record

/-!
# Evaluation

A query is compiled once: the blocks without usable terms are dropped, and every usable term gets
its pattern. The contributions of the blocks are then folded from the left, without precedence;
the operators keep their positions, and blocks that no operator reaches are left out. Every block
that is folded is looked for, whatever the value so far.

* `CompiledQuery.evaluate`: whether the texts of a record satisfy the query, and the hits of the
  blocks that fired and are not excluded.
-/

namespace CiteSieve

/-! ## Compiled queries -/

/-- A term with its pattern. -/
structure CompiledTerm where
  term : String
  pattern : Pattern
  deriving DecidableEq, Repr

/-- A block with its usable terms. -/
structure CompiledBlock where
  block : Block
  terms : List CompiledTerm
  deriving DecidableEq, Repr

/-- A query ready to be evaluated. -/
structure CompiledQuery where
  blocks : List CompiledBlock := []
  operators : List Operator := []
  caseInsensitive : Bool := true
  searchFields : Selection := {}
  deriving DecidableEq, Repr

/-- Compile the usable terms. -/
def Block.compile (b : Block) (caseInsensitive : Bool) : Except Regex.Error CompiledBlock := do
  let terms ← b.usableTerms.mapM fun t =>
    (Term.compile t b.isRegex caseInsensitive).map fun p => CompiledTerm.mk t p
  .ok ⟨b, terms⟩

/-- Compile the blocks that have usable terms. -/
def Query.compile (q : Query) : Except Regex.Error CompiledQuery := do
  let blocks ← (q.blocks.filter Block.isUsable).mapM (·.compile q.caseInsensitive)
  .ok ⟨blocks, q.operators, q.caseInsensitive, q.searchFields⟩

/-! ## Matching -/

/-- The pattern finds something in the text. -/
def Pattern.hits (p : Pattern) (text : String) : Bool :=
  (p.search? text 0).isSome

/-- The terms of a block that hit a text; an empty text is never hit. -/
def CompiledBlock.termsHitting (b : CompiledBlock) (text : String) : List String :=
  if text = "" then []
  else (b.terms.filter fun t => t.pattern.hits text).map CompiledTerm.term

/-- The hits of a block in the texts of a record. -/
def CompiledBlock.hits (b : CompiledBlock) (texts : Field → String) : FieldHits :=
  .ofFun fun f => b.termsHitting (texts f)

/-- What a block with the given hits contributes to the value of the query. -/
def Block.contribution (b : Block) (h : FieldHits) : Bool :=
  (!h.isEmpty) != b.exclude

/-- A block with the given hits is reported. -/
def Block.isReported (b : Block) (h : FieldHits) : Bool :=
  !h.isEmpty && !b.exclude

/-! ## Folding -/

/-- The value of a record. -/
structure Evaluation where
  ok : Bool
  /-- The names of the blocks that fired, in order. -/
  names : List String := []
  hits : HitMap := []
  deriving DecidableEq, Repr

/-- Take in a block with the given hits; `join` joins its contribution to the value so far. -/
def Evaluation.take (e : Evaluation) (join : Bool → Bool → Bool) (b : Block) (h : FieldHits) :
    Evaluation :=
  let ok := join e.ok (b.contribution h)
  if b.isReported h then ⟨ok, e.names ++ [b.name], e.hits.put b.name h⟩
  else { e with ok }

/-- Take in the blocks that operators join to the value so far. -/
def foldBlocks (texts : Field → String) (e : Evaluation)
    (joined : List (Operator × CompiledBlock)) : Evaluation :=
  joined.foldl (fun e ob => e.take ob.1.apply ob.2.block (ob.2.hits texts)) e

namespace CompiledQuery

/-- The names of the blocks that are not excluded, in order. -/
def positiveNames (q : CompiledQuery) : List String :=
  (q.blocks.filter fun b => !b.block.exclude).map (·.block.name)

/-- The names of the blocks of regular expressions. -/
def regexNames (q : CompiledQuery) : List String :=
  ((q.blocks.filter (·.block.isRegex)).map (·.block.name)).eraseDups

/-- Evaluate the query on the texts of a record. -/
def evaluateTexts (q : CompiledQuery) (texts : Field → String) : Evaluation :=
  match q.blocks with
  | [] => { ok := true }
  | b :: bs =>
    let first := Evaluation.take { ok := true } (fun _ value => value) b.block (b.hits texts)
    foldBlocks texts first (q.operators.zip bs)

/-- Evaluate the query on texts, of which only the selected ones count. -/
def evaluate (q : CompiledQuery) (selection : Selection) (texts : Field → String) : Evaluation :=
  q.evaluateTexts fun f => if selection.selects f then texts f else ""

/-- Evaluate the query on a record. -/
def evaluateRecord (q : CompiledQuery) (selection : Selection) (r : Record) : Evaluation :=
  q.evaluate selection r.text

end CompiledQuery

end CiteSieve
