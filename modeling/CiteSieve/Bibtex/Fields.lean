import CiteSieve.Assoc
import CiteSieve.Bibtex.Header
import CiteSieve.Text.Case

/-!
# Fields of an entry

A field is `key = value`, a comma may follow. The value is quoted, with a backslash hiding the
character after it; or braced, with one further level of braces inside; or a run of digits. What
is no field is passed over.

In a braced value a backslash hides the character after it if the value can then be closed, and
stands for itself otherwise.

* `fieldMatches`: every field of a text with the offset of its key.
* `parseFields`: their values by lower-case key, the last value of each.
-/

namespace CiteSieve.Bibtex

/-! ## Values -/

/-- May stand in a value outside braces. -/
def isPlain (c : Char) : Bool :=
  c != '\x7b' && c != '\x7d'

/-- What stands before the quote that closes a quoted value, and what follows. -/
def closeQuote : List Char → Option (List Char × List Char)
  | [] => none
  | ['\\'] => none
  | '\\' :: c :: cs => (closeQuote cs).map fun (v, rest) => ('\\' :: c :: v, rest)
  | c :: cs =>
    if c = '"' then some ([], cs) else (closeQuote cs).map fun (v, rest) => (c :: v, rest)

/-- What stands before the brace that closes a braced value, and what follows. At most `fuel`
characters are read. -/
def closeBraceWithin : (fuel : Nat) → List Char → Option (List Char × List Char)
  | fuel + 1, c :: cs =>
    if c = '\x7d' then some ([], cs)
    else if c = '\x7b' then
      match cs.dropWhile isPlain with
      | '\x7d' :: rest =>
        (closeBraceWithin fuel rest).map fun (v, rest) =>
          ('\x7b' :: cs.takeWhile isPlain ++ '\x7d' :: v, rest)
      | _ => none
    else
      let alone := fun (_ : Unit) => (closeBraceWithin fuel cs).map fun (v, rest) => (c :: v, rest)
      match c, cs with
      | '\\', d :: ds =>
        match closeBraceWithin fuel ds with
        | some (v, rest) => some ('\\' :: d :: v, rest)
        | none => if isPlain d && d != '\\' then none else alone ()
      | _, _ => alone ()
  | _, _ => none

/-- What stands before the brace that closes a braced value, and what follows. -/
def closeBrace (cs : List Char) : Option (List Char × List Char) :=
  closeBraceWithin cs.length cs

/-- A value with its delimiters, and what follows. -/
def value? : List Char → Option (List Char × List Char)
  | [] => none
  | c :: cs =>
    if c = '"' then (closeQuote cs).map fun (v, rest) => (c :: v ++ ['"'], rest)
    else if c = '\x7b' then (closeBrace cs).map fun (v, rest) => (c :: v ++ ['\x7d'], rest)
    else if Text.isDigit c then
      some (c :: cs.takeWhile Text.isDigit, cs.dropWhile Text.isDigit)
    else none

/-- The value that an equals sign announces, and what follows the comma after it. -/
def assigned? (cs : List Char) : Option (List Char × List Char) :=
  match cs.dropWhile Text.isBlank with
  | '=' :: r =>
    (value? (r.dropWhile Text.isBlank)).map fun (v, rest) =>
      match rest.dropWhile Text.isBlank with
      | ',' :: rest => (v, rest)
      | rest => (v, rest)
  | _ => none

/-- Remove one layer of enclosing braces or quotes. -/
def stripDelimiters (cs : List Char) : List Char :=
  let closes := fun (a b : Char) => cs.head? == some a && cs.getLast? == some b
  if 2 ≤ cs.length ∧ (closes '\x7b' '\x7d' ∨ closes '"' '"') then cs.tail.dropLast else cs

/-! ## Fields -/

/-- A field as it stands: the offset of its key, its key and its value with delimiters. -/
structure FieldMatch where
  start : Nat
  key : List Char
  value : List Char
  deriving DecidableEq, Repr

/-- The fields of `cs`, which stands at the offset `start`; at most `fuel` steps. -/
def fieldMatchesFrom : (fuel start : Nat) → List Char → List FieldMatch
  | fuel + 1, start, c :: cs =>
    if Text.isWord c then
      let key := c :: cs.takeWhile Text.isWord
      let after := cs.dropWhile Text.isWord
      match assigned? after with
      | some (v, rest) =>
        ⟨start, key, v⟩ ::
          fieldMatchesFrom fuel (start + (1 + cs.length - rest.length)) rest
      | none => fieldMatchesFrom fuel (start + key.length) after
    else fieldMatchesFrom fuel (start + 1) cs
  | _, _, _ => []

/-- The fields of a text. -/
def fieldMatches (cs : List Char) : List FieldMatch :=
  fieldMatchesFrom cs.length 0 cs

/-- The key and the value that a field puts into a record. -/
def FieldMatch.entry (m : FieldMatch) : String × String :=
  (Text.lower (String.ofList m.key), String.ofList (stripDelimiters m.value))

/-- The fields of the body of an entry. -/
def parseFields (cs : List Char) : Assoc String String :=
  Assoc.ofList ((fieldMatches cs).map FieldMatch.entry)

end CiteSieve.Bibtex
