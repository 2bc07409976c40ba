import CiteSieve.Regex.Basic
import CiteSieve.Regex.Token
import CiteSieve.Text.CharName

/-!
# Escapes

`escape` writes a text so that it reads back as itself. The readers take what follows a
backslash: control characters, code points by number or by name, kinds of characters, and, in a
set, ranges between them.
-/

namespace CiteSieve.Regex

/-! ## Writing -/

/-- The characters that are written with a backslash. -/
def isSpecial (c : Char) : Bool :=
  "()[]\x7b\x7d?*+-|^$\\.&~# \t\n\r\x0b\x0c".toList.contains c

/-- The text with a backslash before each special character. -/
def escapeChars (cs : List Char) : List Char :=
  cs.flatMap fun c => if isSpecial c then ['\\', c] else [c]

/-- The text with a backslash before each special character. -/
def escape (s : String) : String :=
  String.ofList (escapeChars s.toList)

/-! ## Reading numbers -/

/-- The value of a hexadecimal digit. -/
def hexValue? (c : Char) : Option Nat :=
  if c.isDigit then some (c.toNat - 0x30)
  else if 'a' ≤ c ∧ c ≤ 'f' then some (c.toNat - 0x61 + 10)
  else if 'A' ≤ c ∧ c ≤ 'F' then some (c.toNat - 0x41 + 10)
  else none

def isHexDigit (c : Char) : Bool := (hexValue? c).isSome

def isOctalDigit (c : Char) : Bool := '0' ≤ c && c ≤ '7'

/-- The number that the digits write in the given base. -/
def numberOf (base : Nat) (cs : List Char) : Nat :=
  cs.foldl (fun n c => n * base + (hexValue? c).getD 0) 0

/-- Exactly `n` hexadecimal digits. -/
def readHex (n : Nat) (ts : List Token) : Except Error (Nat × List Token) := do
  let (cs, rest) ← takeWhile isHexDigit n ts
  if cs.length = n then .ok (numberOf 16 cs, rest) else .error (.flaw .badEscape)

/-! ## Reading characters -/

/-- The control character that a letter stands for. -/
def controlCode? : Char → Option Nat
  | 'a' => some 7
  | 'b' => some 8
  | 't' => some 9
  | 'n' => some 10
  | 'v' => some 11
  | 'f' => some 12
  | 'r' => some 13
  | '\\' => some 0x5c
  | _ => none

/-- The kind of character that a letter stands for, under ASCII matching if `ascii`. -/
def kindItem? (ascii : Bool) : Char → Option SetItem
  | 'd' => some (.kind .digit ascii false)
  | 'D' => some (.kind .digit ascii true)
  | 's' => some (.kind .blank ascii false)
  | 'S' => some (.kind .blank ascii true)
  | 'w' => some (.kind .word ascii false)
  | 'W' => some (.kind .word ascii true)
  | _ => none

/-- A code point by number or name, or a character that stands for itself. -/
def readCode (c : Char) (ts : List Token) : Except Error (Nat × List Token) := do
  if c = 'x' then readHex 2 ts
  else if c = 'u' then readHex 4 ts
  else if c = 'U' then
    let (n, rest) ← readHex 8 ts
    if n < 0x110000 then .ok (n, rest) else .error (.flaw .badEscape)
  else if c = 'N' then
    let some ts ← take? '\x7b' ts | .error (.flaw .missingName)
    let (name, rest) ← takeName '\x7d' ts
    match Text.charNamed? (String.ofList name) with
    | some n => .ok (n, rest)
    | none => .error (.flaw .unknownCharName)
  else if c.isAlphanum then .error (.flaw .badEscape)
  else .ok (c.toNat, ts)

/-! ## Sets -/

/-- An escape in a set. -/
def readSetEscape (ascii : Bool) (c : Char) (ts : List Token) :
    Except Error (SetItem × List Token) := do
  if let some n := controlCode? c then .ok (.code n, ts)
  else if let some item := kindItem? ascii c then .ok (item, ts)
  else if isOctalDigit c then
    let (cs, rest) ← takeWhile isOctalDigit 2 ts
    let n := numberOf 8 (c :: cs)
    if n ≤ 0xff then .ok (.code n, rest) else .error (.flaw .badEscape)
  else
    let (n, rest) ← readCode c ts
    .ok (.code n, rest)

/-- One end of a range, or a lone entry; `t` has been taken. -/
def readSetEntry (ascii : Bool) (t : Token) (ts : List Token) :
    Except Error (SetItem × List Token) :=
  match t with
  | .char c => .ok (.code c.toNat, ts)
  | .escape c => readSetEscape ascii c ts
  | .danglingBackslash => .error (.flaw .danglingBackslash)

/-- The range between two entries, which must be single code points in order. -/
def rangeOf : SetItem → SetItem → Except Error SetItem
  | .code m, .code n => if m ≤ n then .ok (.range m n) else .error (.flaw .badRange)
  | _, _ => .error (.flaw .badRange)

/-- The entries up to the closing bracket, which is an entry itself if it comes first. At most
`fuel` entries are read. -/
def readSetItems (ascii : Bool) :
    (fuel : Nat) → (items : List SetItem) → List Token → Except Error (List SetItem × List Token)
  | fuel + 1, items, t :: ts => do
    let _ ← afterFirst (t :: ts)
    if t = .char ']' ∧ items ≠ [] then .ok (items, ts)
    else
      let (item, rest) ← readSetEntry ascii t ts
      match ← take? '-' rest with
      | none => readSetItems ascii fuel (items ++ [item]) rest
      | some [] => .error (.flaw .unterminatedSet)
      | some (t :: ts) =>
        let _ ← afterFirst (t :: ts)
        if t = .char ']' then .ok (items ++ [item, .code '-'.toNat], ts)
        else
          let (last, rest) ← readSetEntry ascii t ts
          let range ← rangeOf item last
          readSetItems ascii fuel (items ++ [range]) rest
  | _, _, _ => .error (.flaw .unterminatedSet)

/-- A set whose opening bracket has been taken. -/
def readSet (ascii : Bool) (fold : Fold) (ts : List Token) :
    Except Error (CharTest × List Token) := do
  let caret ← take? '^' ts
  let (items, rest) ← readSetItems ascii ts.length [] (caret.getD ts)
  match items.eraseDups, caret.isSome with
  | [.code n], negated => .ok (.one n negated fold, rest)
  | items, negated => .ok (.set items negated fold, rest)

end CiteSieve.Regex
