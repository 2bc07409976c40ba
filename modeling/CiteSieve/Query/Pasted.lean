import CiteSieve.Query.Basic
import CiteSieve.Text.Case

/-!
# Pasted queries

A query as search pages write it: groups joined by `AND`, each a term or terms joined by `OR`,
in parentheses or not, and `NOT` before a group that is excluded. Two levels are read: all
groups are joined by `AND`, and everything deeper stays inside a term.

* `splitTopLevel`: the parts between a word that stands outside quotes and parentheses.
* `isEnclosed`: one pair of parentheses encloses the whole text.
* `parse?` and `substitute?`: the blocks that a pasted query holds, and a query with them in place.
-/

namespace CiteSieve.Pasted

/-! ## Quotes -/

/-- A quote that hides operators up to its next occurrence. -/
def isStraightQuote (c : Char) : Bool :=
  c == '"' || c == '\''

/-- A quote that is removed around a term. -/
def isTermQuote (c : Char) : Bool :=
  "\"'“”‘’".toList.contains c

/-- Remove one quote at the start. -/
def dropQuote : List Char → List Char
  | [] => []
  | c :: cs => if isTermQuote c then cs else c :: cs

/-- Remove one quote at each end, and blanks around and inside them. -/
def stripQuotes (cs : List Char) : List Char :=
  Text.trimChars (dropQuote (dropQuote (Text.trimChars cs)).reverse).reverse

/-! ## Splitting at a word -/

/-- Where a scan stands: how many parentheses are open, and which quote. -/
structure Nesting where
  depth : Nat := 0
  quote : Option Char := none
  deriving DecidableEq, Repr

/-- After one more character. -/
def Nesting.next (n : Nesting) (c : Char) : Nesting :=
  match n.quote with
  | some q => if c = q then { n with quote := none } else n
  | none =>
    if isStraightQuote c then { n with quote := some c }
    else if c = '(' then { n with depth := n.depth + 1 }
    else if c = ')' then { n with depth := n.depth - 1 }
    else n

/-- The characters begin with the word in some case, and a space, an opening parenthesis or the
end follows. -/
def wordFollows (word : List Char) (cs : List Char) : Bool :=
  Text.upperChars (cs.take word.length) == word &&
    match (cs.drop word.length).head? with
    | none => true
    | some c => c == ' ' || c == '('

/-- The word begins an operator here, outside quotes and parentheses and after a space or a
closing parenthesis. -/
def operatorHere (word : List Char) (n : Nesting) (last : Option Char) : List Char → Bool
  | [] => false
  | c :: cs =>
    n.quote.isNone && n.depth == 0 && !isStraightQuote c && c != '(' && c != ')' &&
      (last == some ' ' || last == some ')') && wordFollows word (c :: cs)

/-- The text cut at every operator: the first piece and the others. `skip` characters belong to
an operator or follow a backslash; the latter are kept (`keep`). -/
def cut (word : List Char) : (n : Nesting) → (last : Option Char) → (skip : Nat) →
    (keep : Bool) → List Char → List Char × List (List Char)
  | _, _, _, _, [] => ([], [])
  | n, _, skip + 1, keep, c :: cs =>
    let (piece, pieces) := cut word n (some c) skip keep cs
    (if keep then c :: piece else piece, pieces)
  | n, last, 0, _, c :: cs =>
    if c = '\\' ∧ cs ≠ [] then
      let (piece, pieces) := cut word n (some c) 1 true cs
      (c :: piece, pieces)
    else if operatorHere word n last (c :: cs) then
      let (piece, pieces) := cut word n (some c) (word.length - 1) false cs
      ([], piece :: pieces)
    else
      let (piece, pieces) := cut word (n.next c) (some c) 0 false cs
      (c :: piece, pieces)

/-- The parts of a text between the operators, trimmed; empty parts are dropped. -/
def splitTopLevel (cs word : List Char) : List (List Char) :=
  let (piece, pieces) := cut word {} none 0 false cs
  ((piece :: pieces).map Text.trimChars).filter (· ≠ [])

/-! ## Parentheses -/

/-- Whether the parentheses of which `depth` are open are closed by the last character and not
before. -/
def closesAtEnd : (depth : Int) → (quote : Option Char) → List Char → Bool
  | depth, _, [] => depth == 0
  | depth, some q, c :: cs => closesAtEnd depth (if c = q then none else some q) cs
  | depth, none, c :: cs =>
    if isStraightQuote c then closesAtEnd depth (some c) cs
    else if c = '(' then closesAtEnd (depth + 1) none cs
    else if c = ')' then
      if depth = 1 ∧ cs ≠ [] then false else closesAtEnd (depth - 1) none cs
    else closesAtEnd depth none cs

/-- One pair of parentheses encloses the whole text. -/
def isEnclosed (cs : List Char) : Bool :=
  cs.head? == some '(' && cs.getLast? == some ')' && closesAtEnd 0 none cs

/-! ## Groups -/

/-- What follows `NOT` in some case and a blank, blanks dropped; `none` if it does not begin the
text. -/
def afterNot? (cs : List Char) : Option (List Char) :=
  match cs with
  | n :: o :: t :: b :: cs =>
    if Fold.unicode.key n.toNat == 'n'.toNat && Fold.unicode.key o.toNat == 'o'.toNat &&
        Fold.unicode.key t.toNat == 't'.toNat && Text.isBlank b then
      some (cs.dropWhile Text.isBlank)
    else none
  | _ => none

/-- Without the parentheses that enclose it. -/
def unwrap (cs : List Char) : List Char :=
  if isEnclosed cs then Text.trimChars cs.tail.dropLast else cs

/-- Whether a group is excluded, and its terms. -/
def parseGroup (cs : List Char) : Bool × List (List Char) :=
  let text := Text.trimChars cs
  let (exclude, text) :=
    match afterNot? text with
    | some rest => (true, Text.trimChars rest)
    | none => (false, text)
  (exclude, ((splitTopLevel (unwrap text) "OR".toList).map stripQuotes).filter (· ≠ []))

/-- The block of the group at position `index`. -/
def groupBlock (index : Nat) (group : List Char) : Block :=
  let (exclude, terms) := parseGroup group
  { name := s!"Group {index + 1}", terms := terms.map String.ofList, exclude }

/-! ## The whole query -/

/-- The blocks of a pasted query, and the operators between them. -/
structure Groups where
  blocks : List Block
  operators : List Operator
  deriving DecidableEq, Repr

/-- The terms of all blocks. -/
def Groups.terms (g : Groups) : List String :=
  g.blocks.flatMap Block.terms

/-- The blocks of a pasted query, `none` if no term is found. -/
def parse? (text : String) : Option Groups :=
  let groups := splitTopLevel (Text.collapse text).toList "AND".toList
  let blocks := groups.mapIdx groupBlock
  if blocks.all (·.terms.isEmpty) then none
  else some ⟨blocks, List.replicate (blocks.length - 1) .and⟩

/-- The query with the blocks of a pasted one in place of its own, `none` if there are none. -/
def substitute? (q : Query) (text : String) : Option Query :=
  (parse? text).map fun g => { q with blocks := g.blocks, operators := g.operators }

end CiteSieve.Pasted
