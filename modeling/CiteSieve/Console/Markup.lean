import CiteSieve.Text.Blank
import CiteSieve.Text.Case

/-!
# Text with tags

Text for the console may hold tags in brackets, which set how the text after them looks and which
a tag with a slash takes back. A backslash before a tag makes it plain text; of several
backslashes before a tag, two stand for one. Names of emoji between colons are left as they are.

* `escape`: a text in which tags are made plain.
* `shown`: what remains of a text once its tags are taken out.
-/

namespace CiteSieve.Console

/-! ## Tags -/

/-- The first character of a tag, after its bracket. -/
def startsTag (c : Char) : Bool :=
  ('a' ≤ c && c ≤ 'z') || c == '#' || c == '/' || c == '@'

/-- Split after the next bracket if it closes. -/
def untilBracket : List Char → Option (List Char × List Char)
  | [] => none
  | c :: cs =>
    if c = ']' then some ([], cs)
    else if c = '[' then none
    else (untilBracket cs).map fun (text, rest) => (c :: text, rest)

/-- The inside of a tag at the start of a text, and the text after it. -/
def tag? : List Char → Option (List Char × List Char)
  | b :: c :: cs =>
    if b = '[' ∧ startsTag c then
      (untilBracket cs).map fun (text, rest) => (c :: text, rest)
    else none
  | _ => none

/-! ## Escaping -/

/-- The characters with tags made plain; `slashes` backslashes stand before them. At most `fuel`
characters are read. -/
def escapeFrom : (fuel slashes : Nat) → List Char → List Char
  | 0, slashes, _ => List.replicate slashes '\\'
  | _ + 1, slashes, [] => List.replicate slashes '\\'
  | fuel + 1, slashes, c :: cs =>
    if c = '\\' then escapeFrom fuel (slashes + 1) cs
    else
      match tag? (c :: cs) with
      | some (text, rest) =>
        List.replicate (2 * slashes + 1) '\\' ++ '[' :: text ++ ']' :: escapeFrom fuel 0 rest
      | none => List.replicate slashes '\\' ++ c :: escapeFrom fuel 0 cs

/-- A single backslash at the end is doubled. -/
def closeSlash (cs : List Char) : List Char :=
  match cs.reverse with
  | '\\' :: '\\' :: _ => cs
  | '\\' :: _ => cs ++ ['\\']
  | _ => cs

/-- The text with tags made plain. -/
def escape (s : String) : String :=
  String.ofList (closeSlash (escapeFrom (s.length + 1) 0 s.toList))

/-! ## Pieces -/

/-- A piece of a text: plain text, or a tag that stands at `position`. -/
inductive Piece where
  | plain (text : List Char)
  | tag (position : Nat) (text : List Char)
  deriving DecidableEq, Repr

/-- The pieces of a text that stands at `position` and has `slashes` backslashes before it. At
most `fuel` characters are read. -/
def piecesFrom : (fuel position slashes : Nat) → List Char → List Piece
  | 0, _, slashes, _ => [.plain (List.replicate slashes '\\')]
  | _ + 1, _, slashes, [] => [.plain (List.replicate slashes '\\')]
  | fuel + 1, position, slashes, c :: cs =>
    if c = '\\' then piecesFrom fuel (position + 1) (slashes + 1) cs
    else
      match tag? (c :: cs) with
      | some (text, rest) =>
        let after := piecesFrom fuel (position + text.length + 2) 0 rest
        .plain (List.replicate (slashes / 2) '\\') ::
          (if slashes % 2 = 1 then .plain ('[' :: text ++ [']']) else .tag position text) :: after
      | none =>
        -- A bracket that begins no tag may have a backslash before it, which is not shown.
        .plain (List.replicate (if c = '[' then slashes - 1 else slashes) '\\' ++ [c]) ::
          piecesFrom fuel (position + 1) 0 cs

/-- The pieces of a text. -/
def pieces (cs : List Char) : List Piece :=
  piecesFrom (cs.length + 1) 0 0 cs

/-! ## Taking tags out -/

/-- A tag takes back what no tag has set. -/
structure UnmatchedTag where
  position : Nat
  /-- The tag with its brackets. -/
  text : String
  deriving DecidableEq, Repr

def UnmatchedTag.message (e : UnmatchedTag) : String :=
  if e.text = "[/]" then s!"closing tag '[/]' at position {e.position} has nothing to close"
  else s!"closing tag '{e.text}' at position {e.position} doesn't match any open tag"

/-- The short names of attributes. -/
def shortNames : List (String × String) :=
  [("b", "bold"), ("d", "dim"), ("i", "italic"), ("u", "underline"), ("r", "reverse"),
    ("c", "conceal"), ("s", "strike"), ("uu", "underline2"), ("o", "overline")]

/-- The name by which tags are matched: short names stand for long ones, case does not matter. -/
def tagName (cs : List Char) : String :=
  let name := Text.lower (String.ofList (Text.trimChars cs))
  (shortNames.lookup name).getD name

/-- What a tag sets or takes back, without the parameters after an equals sign. -/
def tagSubject (text : List Char) : List Char :=
  text.takeWhile (· ≠ '=')

/-- The stack of names without the first `name`. -/
def close? (name : String) (stack : List String) : Option (List String) :=
  if name = "" then stack.tail?
  else if stack.contains name then some (stack.erase name)
  else none

/-- A character that moves the cursor or rings a bell is not shown. -/
def isHidden (c : Char) : Bool :=
  let n := c.toNat
  n == 7 || n == 8 || n == 11 || n == 12 || n == 13

/-- What is shown of pieces, with the names of `stack` set. -/
def showPieces : (stack : List String) → List Piece → Except UnmatchedTag (List Char)
  | _, [] => .ok []
  | stack, .plain text :: ps =>
    (showPieces stack ps).map fun cs => text.filter (fun c => !isHidden c) ++ cs
  | stack, .tag position text :: ps =>
    match tagSubject text with
    | '/' :: subject =>
      let name := if Text.trimChars subject = [] then "" else tagName subject
      match close? name stack with
      | some stack => showPieces stack ps
      | none =>
        .error ⟨position, if name = "" then "[/]" else "[" ++ String.ofList text ++ "]"⟩
    | subject => showPieces (tagName subject :: stack) ps

/-- What is shown of a text. -/
def shown (s : String) : Except UnmatchedTag String :=
  (showPieces [] (pieces s.toList)).map String.ofList

end CiteSieve.Console
