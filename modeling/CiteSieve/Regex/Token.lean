import CiteSieve.Regex.Error

/-!
# Tokens of an expression

A backslash and the character after it are one token. `Tokens.drop1` moves past a token; a
backslash that ends the text is an error as soon as it comes next.
-/

namespace CiteSieve.Regex

/-- A character of the text of an expression, or an escape. -/
inductive Token where
  | char (c : Char)
  | escape (c : Char)
  | danglingBackslash
  deriving DecidableEq, Repr

/-- The characters of a token. -/
def Token.text : Token → List Char
  | .char c => [c]
  | .escape c => ['\\', c]
  | .danglingBackslash => ['\\']

/-- The tokens of a text. -/
def tokenize : List Char → List Token
  | [] => []
  | ['\\'] => [.danglingBackslash]
  | '\\' :: c :: cs => .escape c :: tokenize cs
  | c :: cs => .char c :: tokenize cs

/-- What is left once the first token is taken. -/
def afterFirst : List Token → Except Error (List Token)
  | _ :: [.danglingBackslash] => .error (.flaw .danglingBackslash)
  | _ :: ts => .ok ts
  | [] => .ok []

/-- What is left once the character `c` is taken, `none` if something else comes first. -/
def take? (c : Char) (ts : List Token) : Except Error (Option (List Token)) :=
  match ts with
  | .char d :: _ => if d = c then (afterFirst ts).map some else .ok none
  | _ => .ok none

/-- At most `n` characters that satisfy `p`, and what is left. -/
def takeWhile (p : Char → Bool) : (n : Nat) → List Token → Except Error (List Char × List Token)
  | n + 1, .char c :: ts =>
    if p c then do
      let _ ← afterFirst (.char c :: ts)
      let (cs, rest) ← takeWhile p n ts
      .ok (c :: cs, rest)
    else .ok ([], .char c :: ts)
  | _, ts => .ok ([], ts)

/-- The text up to the character `stop`, which must come and not at once, and what is left. -/
def takeName (stop : Char) : List Token → Except Error (List Char × List Token)
  | [] => .error (.flaw .missingName)
  | t :: ts => do
    let _ ← afterFirst (t :: ts)
    if t = .char stop then .error (.flaw .missingName)
    else go t.text ts
where
  /-- The rest of a name of which `name` has been read. -/
  go (name : List Char) : List Token → Except Error (List Char × List Token)
    | [] => .error (.flaw .missingName)
    | t :: ts => do
      let _ ← afterFirst (t :: ts)
      if t = .char stop then .ok (name, ts) else go (name ++ t.text) ts

end CiteSieve.Regex
