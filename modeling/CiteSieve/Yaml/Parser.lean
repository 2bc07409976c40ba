import CiteSieve.Yaml.Flow

/-!
# Reading YAML

A document in lines. The lines of a block share their indentation: a block of dashes is a list, a
block of keys a mapping, and a value that does not stand on the line of its dash or key stands
deeper on the next lines. Blank lines and comments say nothing.

Settings files use no anchors, tags, block scalars or several documents; a text with such is
refused.

* `Yaml.parse`: the value of a document.
-/

namespace CiteSieve.Yaml

/-! ## Lines -/

/-- A line that says something: its indentation, and its text without comment. -/
structure Line where
  indent : Nat
  text : List Char
  deriving DecidableEq, Repr

/-- A quote begins a scalar after this character. -/
def opensQuote (last : Char) : Bool :=
  isBlank last || "[\x7b,:-".toList.contains last

/-- The text before a comment. A comment begins after a blank and outside quotes. -/
def dropComment : (quote : Option Char) → (last : Char) → List Char → List Char
  | _, _, [] => []
  | some '"', _, '\\' :: c :: cs => '\\' :: c :: dropComment (some '"') c cs
  | some q, _, c :: cs => c :: dropComment (if c = q then none else some q) c cs
  | none, last, c :: cs =>
    if c = '#' ∧ isBlank last then []
    else if (c = '"' ∨ c = '\'') ∧ opensQuote last then c :: dropComment (some c) c cs
    else c :: dropComment none c cs

/-- A line of the document. -/
def Line.ofChars (cs : List Char) : Line :=
  ⟨(cs.takeWhile (· == ' ')).length,
    dropTrailing (dropComment none ' ' (cs.dropWhile (· == ' ')))⟩

/-- The character may stand in a document. -/
def isAllowed (c : Char) : Bool :=
  let n := c.toNat
  n == 9 || n == 10 || n == 13 || (0x20 ≤ n && n ≤ 0x7e) || n == 0x85 ||
    (0xa0 ≤ n && n ≤ 0xfffd) || 0x10000 ≤ n

/-- The lines that say something. -/
def linesOf (cs : List Char) : List Line :=
  ((cs.splitOn '\n').map Line.ofChars).filter fun l => l.text ≠ []

/-! ## Dashes and keys -/

/-- What follows the dash of an item. -/
def afterDash? : List Char → Option (List Char)
  | ['-'] => some []
  | '-' :: c :: cs => if isBlank c then some (c :: cs) else none
  | _ => none

/-- The key at the start of a line, and what follows its colon. -/
def key? (cs : List Char) : Option (String × List Char) :=
  let found := match readQuoted? cs with
    | some (.ok (text, rest)) => some (String.ofList text, skipBlanks rest)
    | some (.error _) => none
    | none =>
      if startsPlain cs then
        let (text, rest) := splitPlain false cs
        (keyText (ofPlain (dropTrailing text))).map fun key => (key, rest)
      else none
  match found with
  | some (key, rest) => if endsAtColon false rest then some (key, rest.tail) else none
  | none => none

/-! ## Blocks -/

/-- More must follow. -/
def isIncomplete : Except Flaw Yaml → Bool
  | .error .incomplete => true
  | _ => false

/-- The value of a text that goes on over the lines; at most `fuel` of them. -/
def joinLines : (fuel : Nat) → (floor : Nat) → List Char → List Line →
    Except Flaw (Yaml × List Line)
  | 0, _, _, _ => .error .invalid
  | fuel + 1, floor, text, ls =>
    match ls with
    | [] => (ofInline text).map fun v => (v, [])
    | l :: rest =>
      if floor ≤ l.indent ∨ isIncomplete (ofInline text) then
        joinLines fuel floor (text ++ ' ' :: l.text) rest
      else (ofInline text).map fun v => (v, l :: rest)

mutual

/-- Read the block that the first line begins. A text goes on over lines indented by at least
`floor`; `fuel` bounds the steps. -/
def readBlock : (fuel floor : Nat) → List Line → Except Flaw (Yaml × List Line)
  | 0, _, _ => .error .invalid
  | _ + 1, _, [] => .ok (.null, [])
  | fuel + 1, floor, l :: ls =>
    if (afterDash? l.text).isSome then
      (readList fuel l.indent (l :: ls)).map fun (items, rest) => (.list items, rest)
    else if (key? l.text).isSome then
      (readMapping fuel l.indent (l :: ls)).map fun (pairs, rest) =>
        (.map (Assoc.ofList pairs), rest)
    else joinLines (ls.length + 1) floor l.text ls

/-- Read the items of a list at the given indentation. -/
def readList : (fuel indent : Nat) → List Line → Except Flaw (List Yaml × List Line)
  | 0, _, _ => .error .invalid
  | _ + 1, _, [] => .ok ([], [])
  | fuel + 1, indent, l :: ls =>
    if indent < l.indent then .error .invalid
    else
      match if l.indent = indent then afterDash? l.text else none with
      | none => .ok ([], l :: ls)
      | some after => do
        let text := skipBlanks after
        let (item, rest) ←
          if text = [] then readBelow fuel indent false ls
          else readBlock fuel (indent + 1) (⟨indent + 1 + (after.length - text.length), text⟩ :: ls)
        let (items, rest) ← readList fuel indent rest
        .ok (item :: items, rest)

/-- Read what stands deeper than `indent`; there may be nothing. The items of a list may stand at
`indent` if `lists` holds. -/
def readBelow : (fuel indent : Nat) → (lists : Bool) → List Line → Except Flaw (Yaml × List Line)
  | 0, _, _, _ => .error .invalid
  | _ + 1, _, _, [] => .ok (.null, [])
  | fuel + 1, indent, lists, l :: ls =>
    if indent < l.indent then readBlock fuel (indent + 1) (l :: ls)
    else if lists ∧ l.indent = indent ∧ (afterDash? l.text).isSome then
      (readList fuel indent (l :: ls)).map fun (items, rest) => (.list items, rest)
    else .ok (.null, l :: ls)

/-- Read the pairs of a mapping at the given indentation. -/
def readMapping : (fuel indent : Nat) → List Line →
    Except Flaw (List (String × Yaml) × List Line)
  | 0, _, _ => .error .invalid
  | _ + 1, _, [] => .ok ([], [])
  | fuel + 1, indent, l :: ls =>
    if l.indent < indent then .ok ([], l :: ls)
    else if indent < l.indent then .error .invalid
    else
      match key? l.text with
      | none => .error .invalid
      | some (key, after) => do
        let text := skipBlanks after
        let (v, rest) ←
          if text = [] then readBelow fuel indent true ls
          else joinLines (ls.length + 1) (indent + 1) text ls
        let (pairs, rest) ← readMapping fuel indent rest
        .ok ((key, v) :: pairs, rest)

end

/-! ## Documents -/

/-- A line that begins a document. -/
def isStart (l : Line) : Bool :=
  l.indent == 0 && l.text == ['-', '-', '-']

/-- A line that ends a document. -/
def isEnd (l : Line) : Bool :=
  l.indent == 0 && l.text == ['.', '.', '.']

/-- The lines of the document, without those that begin and end it. -/
def body (ls : List Line) : List Line :=
  let ls := match ls with
    | l :: rest => if isStart l then rest else l :: rest
    | [] => []
  match ls.reverse with
  | l :: rest => if isEnd l then rest.reverse else ls
  | [] => []

/-- The value of a document; nothing if it is empty. -/
def parse (s : String) : Except Flaw Yaml :=
  let cs := match s.toList with
    | c :: cs => if c = '\ufeff' then cs else c :: cs
    | [] => []
  let ls := body (linesOf cs)
  if !cs.all isAllowed || ls.any (fun l => l.text.head? == some '\t' || isStart l || isEnd l) then
    .error .invalid
  else do
    let (v, rest) ← readBlock (4 * cs.length + 4) 0 ls
    if rest = [] then .ok v else .error .invalid

end CiteSieve.Yaml
