import CiteSieve.Json.Parser
import CiteSieve.Yaml.Basic

/-!
# YAML on one line

Scalars and bracketed collections. A scalar is quoted in one of two ways or plain; a plain scalar
ends before a colon with a blank after it and, between brackets, also before brackets and commas.

* `readFlow`: a value between brackets.
* `ofInline`: the value of a text that holds nothing else.
-/

namespace CiteSieve.Yaml

/-- Why a text is no value: it ends too early, or it cannot be one. -/
inductive Flaw where
  | incomplete
  | invalid
  deriving DecidableEq, Repr

/-- A space or a tab. -/
def isBlank (c : Char) : Bool :=
  c == ' ' || c == '\t'

/-- Drop blanks at the start. -/
def skipBlanks (cs : List Char) : List Char :=
  cs.dropWhile isBlank

/-- Drop blanks at the end. -/
def dropTrailing (cs : List Char) : List Char :=
  (cs.reverse.dropWhile isBlank).reverse

/-! ## Quoted scalars -/

/-- Read up to the closing apostrophe; two apostrophes stand for one. -/
def readSingle : List Char → Except Flaw (List Char × List Char)
  | [] => .error .incomplete
  | '\'' :: '\'' :: cs => (readSingle cs).map fun (text, rest) => ('\'' :: text, rest)
  | c :: cs =>
    if c = '\'' then .ok ([], cs)
    else (readSingle cs).map fun (text, rest) => (c :: text, rest)

/-- What the letter after a backslash stands for. -/
def escape? (c : Char) : Option Char :=
  [('0', '\x00'), ('a', '\x07'), ('b', '\x08'), ('t', '\t'), ('\t', '\t'), ('n', '\n'),
    ('v', '\x0b'), ('f', '\x0c'), ('r', '\r'), ('e', '\x1b'), (' ', ' '), ('"', '"'),
    ('\\', '\\'), ('/', '/'), ('N', '\u0085'), ('_', '\u00a0'), ('L', '\u2028'),
    ('P', '\u2029')].lookup c

/-- How many digits the code after a backslash and a letter has. -/
def codeLength? (c : Char) : Option Nat :=
  [('x', 2), ('u', 4), ('U', 8)].lookup c

/-- Read what follows a backslash. -/
def readEscape : List Char → Except Flaw (Char × List Char)
  | [] => .error .incomplete
  | c :: cs =>
    match escape? c, codeLength? c with
    | some d, _ => .ok (d, cs)
    | none, some n =>
      match digits? 16 (cs.take n) with
      | some code =>
        if (cs.take n).length = n ∧ (cs.take n).all fun d => (Json.hexDigit? d).isSome then
          .ok (Char.ofNat code, cs.drop n)
        else .error .invalid
      | none => .error .invalid
    | none, none => .error .invalid

/-- Read up to the closing quote; at most `fuel` characters. -/
def readDouble : (fuel : Nat) → List Char → Except Flaw (List Char × List Char)
  | 0, _ => .error .incomplete
  | _ + 1, [] => .error .incomplete
  | fuel + 1, c :: cs =>
    if c = '"' then .ok ([], cs)
    else if c = '\\' then do
      let (d, rest) ← readEscape cs
      let (text, rest) ← readDouble fuel rest
      .ok (d :: text, rest)
    else do
      let (text, rest) ← readDouble fuel cs
      .ok (c :: text, rest)

/-- Read a quoted scalar if one begins here. -/
def readQuoted? : List Char → Option (Except Flaw (List Char × List Char))
  | '"' :: cs => some (readDouble (cs.length + 1) cs)
  | '\'' :: cs => some (readSingle cs)
  | _ => none

/-! ## Plain scalars -/

/-- Structures collections between brackets. -/
def isFlowMark (c : Char) : Bool :=
  ",?[]\x7b\x7d".toList.contains c

/-- A plain scalar may begin here. -/
def startsPlain : List Char → Bool
  | [] => false
  | [c] => !(",[]\x7b\x7d#&*!|>'\"%@`-?:".toList.contains c)
  | c :: d :: _ =>
    if c = '-' ∨ c = '?' ∨ c = ':' then !isBlank d
    else !(",[]\x7b\x7d#&*!|>'\"%@`".toList.contains c)

/-- A colon that ends a scalar: one before a blank or the end, between brackets also before what
structures collections. -/
def endsAtColon (inFlow : Bool) : List Char → Bool
  | ':' :: [] => true
  | ':' :: d :: _ => isBlank d || (inFlow && ",[]\x7b\x7d".toList.contains d)
  | _ => false

/-- Split a text before the colon that ends its scalar, or at its end. -/
def splitPlain (inFlow : Bool) : List Char → List Char × List Char
  | [] => ([], [])
  | c :: cs =>
    if endsAtColon inFlow (c :: cs) || (inFlow && isFlowMark c) then ([], c :: cs)
    else
      let (text, rest) := splitPlain inFlow cs
      (c :: text, rest)

/-! ## Collections -/

/-- The text under which a value serves as a key. -/
def keyText : Yaml → Option String
  | .str s => some s
  | .int i => some (toString i)
  | .bool b => some (if b then "true" else "false")
  | .null => some "null"
  | _ => none

mutual

/-- Read a value between brackets, after blanks; `fuel` bounds the steps. -/
def readFlow : (fuel : Nat) → List Char → Except Flaw (Yaml × List Char)
  | 0, _ => .error .incomplete
  | fuel + 1, cs =>
    let cs := skipBlanks cs
    match readQuoted? cs, cs with
    | some r, _ => r.map fun (text, rest) => (.str (String.ofList text), rest)
    | none, [] => .error .incomplete
    | none, c :: cs =>
      if c = '[' then (readItems fuel cs).map fun (items, rest) => (.list items, rest)
      else if c = '\x7b' then
        (readPairs fuel cs).map fun (pairs, rest) => (.map (Assoc.ofList pairs), rest)
      else if startsPlain (c :: cs) then
        let (text, rest) := splitPlain true (c :: cs)
        .ok (ofPlain (dropTrailing text), rest)
      else .error .invalid

/-- Read the items of a list and its closing bracket. -/
def readItems : (fuel : Nat) → List Char → Except Flaw (List Yaml × List Char)
  | 0, _ => .error .incomplete
  | fuel + 1, cs =>
    match skipBlanks cs with
    | [] => .error .incomplete
    | c :: cs =>
      if c = ']' then .ok ([], cs)
      else do
        let (item, rest) ← readFlow fuel (c :: cs)
        let (item, rest) ← readPairItem fuel item rest
        match skipBlanks rest with
        | [] => .error .incomplete
        | d :: rest =>
          if d = ',' then do
            let (items, rest) ← readItems fuel rest
            .ok (item :: items, rest)
          else if d = ']' then .ok ([item], rest)
          else .error .invalid

/-- An item of a list that a colon makes the key of a mapping. -/
def readPairItem : (fuel : Nat) → Yaml → List Char → Except Flaw (Yaml × List Char)
  | 0, _, _ => .error .incomplete
  | fuel + 1, item, cs =>
    match skipBlanks cs, keyText item with
    | ':' :: rest, some key => do
      let (v, rest) ← readValue fuel rest
      .ok (.map [(key, v)], rest)
    | ':' :: _, none => .error .invalid
    | _, _ => .ok (item, cs)

/-- Read the value after a colon; there may be none. -/
def readValue : (fuel : Nat) → List Char → Except Flaw (Yaml × List Char)
  | 0, _ => .error .incomplete
  | fuel + 1, cs =>
    match skipBlanks cs with
    | [] => .error .incomplete
    | c :: cs =>
      if c = ',' ∨ c = ']' ∨ c = '\x7d' then .ok (.null, c :: cs) else readFlow fuel (c :: cs)

/-- Read the pairs of a mapping and its closing brace. -/
def readPairs : (fuel : Nat) → List Char → Except Flaw (List (String × Yaml) × List Char)
  | 0, _ => .error .incomplete
  | fuel + 1, cs =>
    match skipBlanks cs with
    | [] => .error .incomplete
    | c :: cs =>
      if c = '\x7d' then .ok ([], cs)
      else do
        let (key, rest) ← readFlow fuel (c :: cs)
        let key ← match keyText key with
          | some s => .ok s
          | none => .error .invalid
        let (v, rest) ← match skipBlanks rest with
          | ':' :: rest => readValue fuel rest
          | rest => .ok (.null, rest)
        match skipBlanks rest with
        | [] => .error .incomplete
        | d :: rest =>
          if d = ',' then do
            let (pairs, rest) ← readPairs fuel rest
            .ok ((key, v) :: pairs, rest)
          else if d = '\x7d' then .ok ([(key, v)], rest)
          else .error .invalid

end

/-! ## Whole texts -/

/-- A value with nothing but blanks after it. -/
def alone (r : Except Flaw (Yaml × List Char)) : Except Flaw Yaml := do
  let (v, rest) ← r
  if skipBlanks rest = [] then .ok v else .error .invalid

/-- The value of a text that holds nothing else. -/
def ofInline (cs : List Char) : Except Flaw Yaml :=
  let cs := skipBlanks cs
  match readQuoted? cs with
  | some r => alone (r.map fun (text, rest) => (.str (String.ofList text), rest))
  | none =>
    if cs.head? = some '[' ∨ cs.head? = some '\x7b' then alone (readFlow (2 * cs.length + 2) cs)
    else if startsPlain cs then
      let (text, rest) := splitPlain false cs
      if rest = [] then .ok (ofPlain (dropTrailing text)) else .error .invalid
    else .error .invalid

end CiteSieve.Yaml
