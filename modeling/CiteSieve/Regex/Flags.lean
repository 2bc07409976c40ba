import CiteSieve.Regex.Basic
import CiteSieve.Regex.Token

/-!
# Flags

The flags of an expression, and how `(?flags)`, `(?flags:` and `(?flags-flags:` are read.
-/

namespace CiteSieve.Regex

/-- The flags in force at a place of an expression. -/
structure Flags where
  ignoreCase : Bool := false
  multiline : Bool := false
  dotAll : Bool := false
  verbose : Bool := false
  ascii : Bool := false
  /-- Unicode matching was asked for in so many words. -/
  unicode : Bool := false
  /-- Repetitions are forbidden. -/
  template : Bool := false
  deriving DecidableEq, Repr

/-- How letters compare under the flags. -/
def Flags.fold (f : Flags) : Fold :=
  if !f.ignoreCase then .exact else if f.ascii then .ascii else .unicode

/-- The letters that name flags. -/
def flagLetters : List Char := ['i', 'L', 'm', 's', 'x', 'a', 't', 'u']

/-- The flags that choose a character set; at most one of them may be given. -/
def charsetLetters : List Char := ['a', 'L', 'u']

/-- Turn a flag on or off. -/
def Flags.put (f : Flags) (on : Bool) : Char → Flags
  | 'i' => { f with ignoreCase := on }
  | 'm' => { f with multiline := on }
  | 's' => { f with dotAll := on }
  | 'x' => { f with verbose := on }
  | 'a' => { f with ascii := on }
  | 'u' => { f with unicode := on }
  | 't' => { f with template := on }
  | _ => f

/-- Flags for the whole expression add up. -/
def Flags.addGlobal (f : Flags) (letters : List Char) : Flags :=
  letters.foldl (fun f c => f.put true c) f

/-- Flags for a group; one that chooses a character set replaces the choice in force. -/
def Flags.scoped (f : Flags) (on off : List Char) : Flags :=
  let base := if on.any charsetLetters.contains then { f with ascii := false, unicode := false }
    else f
  off.foldl (fun f c => f.put false c) (on.foldl (fun f c => f.put true c) base)

/-- What a flag list says. -/
inductive FlagChange where
  /-- It holds for the whole expression. -/
  | whole (on : List Char)
  /-- It holds up to the end of the group that it opens. -/
  | scoped (on off : List Char)

/-- A flaw of a flag list. -/
def badFlags {α : Type} : Except Error α :=
  .error (.flaw .badFlags)

/-- Letters to turn on, after those in `on`, up to a mark that ends them, which is also given. -/
def readOn (on : List Char) (letter : Char) :
    List Token → Except Error (List Char × Char × List Token)
  | .char d :: ts => do
    if letter = 'L' then badFlags
    let on := on ++ [letter]
    if charsetLetters.contains letter && on.any (fun o => charsetLetters.contains o && o != letter)
    then badFlags
    let _ ← afterFirst (.char d :: ts)
    if d = ')' ∨ d = ':' ∨ d = '-' then .ok (on, d, ts)
    else if flagLetters.contains d then readOn on d ts
    else badFlags
  | _ => badFlags

/-- Letters to turn off, after those in `off`, up to the colon. -/
def readOff (off : List Char) (letter : Char) :
    List Token → Except Error (List Char × List Token)
  | .char d :: ts => do
    if charsetLetters.contains letter then badFlags
    let off := off ++ [letter]
    let _ ← afterFirst (.char d :: ts)
    if d = ':' then .ok (off, ts)
    else if flagLetters.contains d then readOff off d ts
    else badFlags
  | _ => badFlags

/-- The list after a minus sign, given the letters to turn on. -/
def readMinus (on : List Char) : List Token → Except Error (FlagChange × List Token)
  | .char d :: ts => do
    let _ ← afterFirst (.char d :: ts)
    if !flagLetters.contains d then badFlags
    let (off, rest) ← readOff [] d ts
    if off.contains 't' || on.any off.contains then badFlags
    .ok (.scoped on off, rest)
  | _ => badFlags

/-- A flag list whose first character, `first`, has been taken. -/
def readFlags (first : Char) (ts : List Token) : Except Error (FlagChange × List Token) := do
  if first = '-' then readMinus [] ts
  else
    let (on, stop, rest) ← readOn [] first ts
    if stop = ')' then .ok (.whole on, rest)
    else if on.contains 't' then badFlags
    else if stop = ':' then .ok (.scoped on [], rest)
    else readMinus on rest

end CiteSieve.Regex
