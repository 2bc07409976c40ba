import CiteSieve.Json.Basic
import CiteSieve.Text.Quoted

/-!
# Writing JSON

A document is written over several lines: every element and every member on a line of its own,
two spaces deeper than what holds it. Characters are written as they are, apart from the quote,
the backslash and control characters.
-/

namespace CiteSieve.Json

/-! ## Strings -/

/-- A character between quotes. -/
def printChar (c : Char) : List Char :=
  if c = '"' then ['\\', '"']
  else if c = '\\' then ['\\', '\\']
  else if c = '\x08' then ['\\', 'b']
  else if c = '\x0c' then ['\\', 'f']
  else if c = '\n' then ['\\', 'n']
  else if c = '\r' then ['\\', 'r']
  else if c = '\t' then ['\\', 't']
  else if c.toNat < 0x20 then '\\' :: 'u' :: Text.hex 4 c.toNat
  else [c]

/-- A string in quotes. -/
def printString (s : String) : List Char :=
  '"' :: (s.toList.flatMap printChar ++ ['"'])

/-! ## Values -/

/-- The start of a line at the given depth. -/
def newline (depth : Nat) : List Char :=
  '\n' :: List.replicate (2 * depth) ' '

/-- An integer. -/
def printInt (i : Int) : List Char :=
  (toString i).toList

mutual

/-- A value whose first line stands at the given depth. -/
def printValue (depth : Nat) : Json → List Char
  | .null => "null".toList
  | .bool true => "true".toList
  | .bool false => "false".toList
  | .int i => printInt i
  | .decimal m e => printInt m ++ 'e' :: printInt e
  | .str s => printString s
  | .arr [] => ['[', ']']
  | .arr (v :: vs) =>
    '[' :: newline (depth + 1) ++ printValue (depth + 1) v ++ printElements (depth + 1) vs ++
      newline depth ++ [']']
  | .obj [] => ['\x7b', '\x7d']
  | .obj ((k, v) :: ms) =>
    '\x7b' :: newline (depth + 1) ++ printString k ++ ':' :: ' ' :: printValue (depth + 1) v ++
      printMembers (depth + 1) ms ++ newline depth ++ ['\x7d']

/-- The elements that follow the first one. -/
def printElements (depth : Nat) : List Json → List Char
  | [] => []
  | v :: vs => ',' :: newline depth ++ printValue depth v ++ printElements depth vs

/-- The members that follow the first one. -/
def printMembers (depth : Nat) : List (String × Json) → List Char
  | [] => []
  | (k, v) :: ms =>
    ',' :: newline depth ++ printString k ++ ':' :: ' ' :: printValue depth v ++
      printMembers depth ms

end

/-- A value as a document. -/
def print (v : Json) : String :=
  String.ofList (printValue 0 v)

end CiteSieve.Json
