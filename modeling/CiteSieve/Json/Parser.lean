import CiteSieve.Json.Basic
import CiteSieve.Text.Blank

/-!
# Reading JSON

A document is one value with blanks around it. Blanks are the space, the tab and the two line
ends. A text that ends where more must follow is truncated; every other fault makes it malformed.
Numbers have no superfluous zeros, and decimals must be in the range of double precision.

* `Json.parse`: the value of a document; of a repeated key the first place and the last value.
-/

namespace CiteSieve.Json

/-- What is wrong with a text that is no document. -/
inductive Flaw where
  | truncated
  | malformed
  deriving DecidableEq, Repr

def Flaw.message : Flaw → String
  | .truncated => "Input data was truncated"
  | .malformed => "JSON is malformed"

/-! ## Blanks and words -/

/-- A blank between tokens. -/
def isBlank (c : Char) : Bool :=
  c == ' ' || c == '\t' || c == '\n' || c == '\r'

/-- Drop blanks. -/
def skipBlanks (cs : List Char) : List Char :=
  cs.dropWhile isBlank

/-- Read the letters of a word that stands for `v`. -/
def readWord (letters : List Char) (v : Json) (cs : List Char) : Except Flaw (Json × List Char) :=
  if cs.take letters.length = letters then .ok (v, cs.drop letters.length)
  else if cs.length < letters.length then .error .truncated
  else .error .malformed

/-! ## Strings -/

/-- The value of a hexadecimal digit. -/
def hexDigit? (c : Char) : Option Nat :=
  if '0' ≤ c ∧ c ≤ '9' then some (c.toNat - '0'.toNat)
  else if 'a' ≤ c ∧ c ≤ 'f' then some (c.toNat - 'a'.toNat + 10)
  else if 'A' ≤ c ∧ c ≤ 'F' then some (c.toNat - 'A'.toNat + 10)
  else none

/-- Read four hexadecimal digits. -/
def readUnit : List Char → Except Flaw (Nat × List Char)
  | a :: b :: c :: d :: cs =>
    match hexDigit? a, hexDigit? b, hexDigit? c, hexDigit? d with
    | some a, some b, some c, some d => .ok (((a * 16 + b) * 16 + c) * 16 + d, cs)
    | _, _, _, _ => .error .malformed
  | _ => .error .truncated

/-- The character that is escaped with one letter. -/
def shortEscape? : Char → Option Char
  | '"' => some '"'
  | '\\' => some '\\'
  | '/' => some '/'
  | 'b' => some '\x08'
  | 'f' => some '\x0c'
  | 'n' => some '\n'
  | 'r' => some '\r'
  | 't' => some '\t'
  | _ => none

/-- Read the second unit of a pair whose first unit is `high`. -/
def readLowUnit (high : Nat) (cs : List Char) : Except Flaw (Char × List Char) :=
  match cs with
  | b :: u :: ds =>
    if cs.length < 6 then .error .truncated
    else if b = '\\' ∧ u = 'u' then do
      let (low, rest) ← readUnit ds
      if 0xdc00 ≤ low ∧ low ≤ 0xdfff then
        .ok (Char.ofNat (0x10000 + (high - 0xd800) * 0x400 + (low - 0xdc00)), rest)
      else .error .malformed
    else .error .malformed
  | _ => .error .truncated

/-- Read what follows a backslash. -/
def readEscape : List Char → Except Flaw (Char × List Char)
  | [] => .error .truncated
  | c :: cs =>
    if c = 'u' then do
      let (n, rest) ← readUnit cs
      if 0xdc00 ≤ n ∧ n ≤ 0xdfff then .error .malformed
      else if 0xd800 ≤ n ∧ n ≤ 0xdbff then readLowUnit n rest
      else .ok (Char.ofNat n, rest)
    else
      match shortEscape? c with
      | some d => .ok (d, cs)
      | none => .error .malformed

/-- Read a string up to its closing quote; at most `fuel` characters. -/
def readStringWithin : (fuel : Nat) → List Char → Except Flaw (List Char × List Char)
  | 0, _ => .error .truncated
  | _ + 1, [] => .error .truncated
  | fuel + 1, c :: cs =>
    if c = '"' then .ok ([], cs)
    else if c = '\\' then do
      let (d, rest) ← readEscape cs
      let (ds, rest) ← readStringWithin fuel rest
      .ok (d :: ds, rest)
    else if c.toNat < 0x20 then .error .malformed
    else do
      let (ds, rest) ← readStringWithin fuel cs
      .ok (c :: ds, rest)

/-- Read a string up to its closing quote. -/
def readString (cs : List Char) : Except Flaw (String × List Char) :=
  (readStringWithin (cs.length + 1) cs).map fun (ds, rest) => (String.ofList ds, rest)

/-! ## Numbers -/

/-- A decimal digit. -/
def isDigit (c : Char) : Bool :=
  '0' ≤ c && c ≤ '9'

/-- The number that digits write, after `n`. -/
def digitsValue (n : Nat) (ds : List Char) : Nat :=
  ds.foldl (fun n d => n * 10 + (d.toNat - '0'.toNat)) n

/-- Read one digit or more. -/
def readDigits (cs : List Char) : Except Flaw (List Char × List Char) :=
  let ds := cs.takeWhile isDigit
  if ds = [] then .error .malformed else .ok (ds, cs.dropWhile isDigit)

/-- Read the whole part of a number; it begins with zero only if it is zero. -/
def readWhole (cs : List Char) : Except Flaw (List Char × List Char) := do
  let (ds, rest) ← readDigits cs
  if ds.head? = some '0' ∧ ds.length ≠ 1 then .error .malformed else .ok (ds, rest)

/-- Read what follows the whole part: a point and digits, or nothing. -/
def readFraction : List Char → Except Flaw (Option (List Char) × List Char)
  | '.' :: cs => (readDigits cs).map fun (ds, rest) => (some ds, rest)
  | cs => .ok (none, cs)

/-- Read an exponent, or nothing. -/
def readExponent : List Char → Except Flaw (Option Int × List Char)
  | [] => .ok (none, [])
  | c :: cs =>
    if c = 'e' ∨ c = 'E' then
      match cs with
      | '+' :: cs => (readDigits cs).map fun (ds, rest) => (some (digitsValue 0 ds : Int), rest)
      | '-' :: cs => (readDigits cs).map fun (ds, rest) => (some (-(digitsValue 0 ds : Int)), rest)
      | cs => (readDigits cs).map fun (ds, rest) => (some (digitsValue 0 ds : Int), rest)
    else .ok (none, c :: cs)

/-- `m * 10 ^ e` rounds to a finite number in double precision. -/
def inRange (m : Nat) (e : Int) : Bool :=
  let least := Nat.pow 2 1024 - Nat.pow 2 970
  if m = 0 then true
  else if e ≤ 0 then
    -- A quotient is compared only where the digits of `m` can outweigh the divisor.
    if (Nat.toDigits 10 m).length < 309 + e.natAbs then true
    else decide (m < least * Nat.pow 10 e.natAbs)
  else if 309 ≤ e then false
  else decide (m * Nat.pow 10 e.natAbs < least)

/-- The number with the given sign and parts. -/
def number (negative : Bool) (whole : List Char) (fraction : Option (List Char))
    (exponent : Option Int) : Except Flaw Json :=
  let sign : Int := if negative then -1 else 1
  match fraction, exponent with
  | none, none => .ok (.int (sign * digitsValue 0 whole))
  | _, _ =>
    let ds := fraction.getD []
    let m := digitsValue (digitsValue 0 whole) ds
    let e := exponent.getD 0 - ds.length
    if inRange m e then .ok (.decimal (sign * m) e) else .error .malformed

/-- Read a number. -/
def readNumber (cs : List Char) : Except Flaw (Json × List Char) := do
  let negative := cs.head? = some '-'
  let (whole, rest) ← readWhole (if negative then cs.tail else cs)
  let (fraction, rest) ← readFraction rest
  let (exponent, rest) ← readExponent rest
  let v ← number negative whole fraction exponent
  .ok (v, rest)

/-! ## Values -/

mutual

/-- Read a value after blanks; `fuel` bounds the steps. -/
def readValue : (fuel : Nat) → List Char → Except Flaw (Json × List Char)
  | 0, _ => .error .truncated
  | fuel + 1, cs =>
    match skipBlanks cs with
    | [] => .error .truncated
    | c :: cs =>
      if c = '"' then (readString cs).map fun (s, rest) => (.str s, rest)
      else if c = '\x7b' then readObject fuel cs
      else if c = '[' then readArray fuel cs
      else if c = 'n' then readWord ['u', 'l', 'l'] .null cs
      else if c = 't' then readWord ['r', 'u', 'e'] (.bool true) cs
      else if c = 'f' then readWord ['a', 'l', 's', 'e'] (.bool false) cs
      else if c = '-' ∨ isDigit c then readNumber (c :: cs)
      else .error .malformed

/-- Read what follows the bracket that opens an array. -/
def readArray : (fuel : Nat) → List Char → Except Flaw (Json × List Char)
  | 0, _ => .error .truncated
  | fuel + 1, cs =>
    match skipBlanks cs with
    | [] => .error .truncated
    | c :: rest =>
      if c = ']' then .ok (.arr [], rest)
      else (readElements fuel (c :: rest)).map fun (vs, rest) => (.arr vs, rest)

/-- Read the elements of an array and its closing bracket. -/
def readElements : (fuel : Nat) → List Char → Except Flaw (List Json × List Char)
  | 0, _ => .error .truncated
  | fuel + 1, cs => do
    let (v, rest) ← readValue fuel cs
    match skipBlanks rest with
    | [] => .error .truncated
    | c :: rest =>
      if c = ',' then do
        let (vs, rest) ← readElements fuel rest
        .ok (v :: vs, rest)
      else if c = ']' then .ok ([v], rest)
      else .error .malformed

/-- Read what follows the brace that opens an object. -/
def readObject : (fuel : Nat) → List Char → Except Flaw (Json × List Char)
  | 0, _ => .error .truncated
  | fuel + 1, cs =>
    match skipBlanks cs with
    | [] => .error .truncated
    | c :: rest =>
      if c = '\x7d' then .ok (.obj [], rest)
      else (readMembers fuel (c :: rest)).map fun (ms, rest) => (.obj (Assoc.ofList ms), rest)

/-- Read the members of an object and its closing brace. -/
def readMembers : (fuel : Nat) → List Char → Except Flaw (List (String × Json) × List Char)
  | 0, _ => .error .truncated
  | fuel + 1, cs => do
    let (key, rest) ← match skipBlanks cs with
      | [] => .error .truncated
      | c :: rest => if c = '"' then readString rest else .error .malformed
    let rest ← match skipBlanks rest with
      | [] => .error .truncated
      | c :: rest => if c = ':' then .ok rest else .error .malformed
    let (v, rest) ← readValue fuel rest
    match skipBlanks rest with
    | [] => .error .truncated
    | c :: rest =>
      if c = ',' then do
        let (ms, rest) ← readMembers fuel rest
        .ok ((key, v) :: ms, rest)
      else if c = '\x7d' then .ok ([(key, v)], rest)
      else .error .malformed

end

/-- The value of a document. -/
def parseChars (cs : List Char) : Except Flaw Json := do
  let (v, rest) ← readValue (2 * cs.length + 2) cs
  if skipBlanks rest = [] then .ok v else .error .malformed

/-- The value of a document. -/
def parse (s : String) : Except Flaw Json :=
  parseChars s.toList

end CiteSieve.Json
