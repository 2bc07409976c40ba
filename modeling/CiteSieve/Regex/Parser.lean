import CiteSieve.Regex.Escape
import CiteSieve.Regex.Flags
import CiteSieve.Text.Identifier

/-!
# Reading an expression

The reader is a pushdown automaton over tokens: a stack of frames, one for each group that is
open, each holding its finished branches and the items of the current one. Every step takes at
least one token. A flaw that shows only when the whole text has been read (`late`) gives way to
errors met on the way.

* `parse` reads an expression: `Parsed` holds its tree and its number of groups.
-/

namespace CiteSieve.Regex

/-! ## Frames -/

/-- What an item is to a repetition mark or to an alternation. -/
inductive ItemKind where
  /-- A condition on a position, which cannot be repeated. -/
  | anchor
  /-- A repetition, which cannot be repeated again. -/
  | repetition
  /-- A test on one character, which can join a set. -/
  | char
  | other
  deriving DecidableEq, Repr

/-- An item of a branch. -/
structure Item where
  kind : ItemKind
  node : Regex

/-- How an open group was opened. -/
inductive Opener where
  | whole
  | capture (index : Nat)
  /-- No group; `plain` if it changes no flags. -/
  | bracket (plain : Bool)
  | atomic
  | ahead (negated : Bool)
  /-- A lookbehind, `outermost` if it stands in no other one. -/
  | behind (negated outermost : Bool)
  | condition (index : Nat)

/-- An open group: its finished branches and the items of the current one, each last first. -/
structure Frame where
  opener : Opener
  flags : Flags
  branches : List (List Item) := []
  items : List Item := []

/-- What has been read. -/
structure Draft where
  frame : Frame
  outer : List Frame := []
  /-- Bounds for the groups from the first on, `none` while a group is open. -/
  widths : List (Option Width) := []
  names : List (String × Nat) := []
  /-- Number of groups that began before the outermost open lookbehind. -/
  behindFrom : Option Nat := none
  /-- Groups that conditions name by number, which must exist in the end. -/
  conditions : List Nat := []
  late : Option Flaw := none

/-- A flaw. -/
def refuse {α : Type} (f : Flaw) : Except Error α :=
  .error (.flaw f)

/-- Add an item to the current branch. -/
def Draft.push (d : Draft) (kind : ItemKind) (node : Regex) : Draft :=
  { d with frame := { d.frame with items := ⟨kind, node⟩ :: d.frame.items } }

/-- Add a test on one character to the current branch. -/
def Draft.pushChar (d : Draft) (test : CharTest) : Draft :=
  d.push .char (.char test)

/-- Add one code point to the current branch. -/
def Draft.pushCode (d : Draft) (n : Nat) : Draft :=
  d.pushChar (.one n false d.frame.flags.fold)

/-- Begin a group. -/
def Draft.enter (d : Draft) (opener : Opener) (flags : Flags) : Draft :=
  { d with frame := { opener, flags }, outer := d.frame :: d.outer }

/-- Bounds for the group with the given index. -/
def Draft.widthOf (d : Draft) (index : Nat) : Width :=
  ((d.widths[index - 1]?).join).getD ⟨0, 0⟩

/-- The group exists and is closed. -/
def Draft.isClosed (d : Draft) (index : Nat) : Bool :=
  ((d.widths[index - 1]?).join).isSome

/-- In a lookbehind, only groups that closed before it may be referred to. -/
def Draft.checkBehind (d : Draft) (index : Nat) : Except Error Unit :=
  match d.behindFrom with
  | none => .ok ()
  | some n =>
    if !d.isClosed index then refuse .openGroup
    else if n < index then refuse .groupOfSameLookbehind
    else .ok ()

/-! ## Branches -/

/-- The entries of a set that accepts what the item accepts, if it is a test on one character
that says what it accepts. -/
def Item.setItems? (i : Item) : Option (List SetItem) :=
  match i.kind, i.node with
  | .char, .char (.one n false _) => some [.code n]
  | .char, .char (.set items false _) => some items
  | _, _ => none

/-- The entries of the test that a branch of one item is. -/
def setOfBranch? : List Item → Option (List SetItem)
  | [i] => i.setItems?
  | _ => none

/-- The entries of a set that accepts what some branch accepts, if each is one such test. -/
def setOfBranches? (branches : List (List Item)) : Option (List SetItem) :=
  (branches.mapM setOfBranch?).map fun items => items.flatten.eraseDups

/-- The branches of a frame, in order. -/
def Frame.allBranches (f : Frame) : List (List Item) :=
  (f.branches.map List.reverse).reverse ++ [f.items.reverse]

/-- The tree of a branch. -/
def branchRegex (items : List Item) : Regex :=
  ofSeq (items.map Item.node)

/-- The item that a frame amounts to: branches of one character each form a set. -/
def Frame.toItem (f : Frame) : Item :=
  match f.allBranches with
  | [[i]] => i
  | [b] => ⟨.other, branchRegex b⟩
  | bs =>
    match setOfBranches? bs with
    | some items => ⟨.char, .char (.set items false f.flags.fold)⟩
    | none => ⟨.other, ofAlt (bs.map branchRegex)⟩

/-! ## Closing a group -/

/-- The item that a closed group leaves, and the draft without its frame. -/
def Draft.close (d : Draft) : Except Error Draft :=
  match d.outer with
  | [] => refuse .unbalancedParenthesis
  | parent :: outer =>
    let item := d.frame.toItem
    let body := item.node
    let d' := { d with frame := parent, outer }
    match d.frame.opener with
    | .whole => .ok (d'.push .other body)
    | .capture index =>
      let width := body.width d.widthOf
      .ok ({ d' with widths := d.widths.set (index - 1) (some width) }.push .other
        (.group index body))
    | .bracket plain =>
      .ok (d'.push (if plain && item.kind = .char then .char else .other) body)
    | .atomic => .ok (d'.push .other (.atomic body))
    | .ahead negated => .ok (d'.push .other (.ahead negated body))
    | .behind negated outermost =>
      let width := body.width d.widthOf
      let late := if width.least = width.most ∧ width.least ≤ 0xffffffff then d.late
        else d.late <|> some .variableLookbehind
      .ok ({ d' with behindFrom := if outermost then none else d.behindFrom, late }.push .other
        (.behind negated width.least body))
    | .condition index =>
      match d.frame.allBranches with
      | [yes] => .ok (d'.push .other (.ifGroup index (branchRegex yes) .empty))
      | [yes, no] => .ok (d'.push .other (.ifGroup index (branchRegex yes) (branchRegex no)))
      | _ => refuse .tooManyBranches

/-- Begin the next branch. -/
def Draft.nextBranch (d : Draft) : Except Error Draft :=
  match d.frame.opener, d.frame.branches with
  | .condition _, _ :: _ => refuse .tooManyBranches
  | _, branches =>
    .ok { d with frame := { d.frame with branches := d.frame.items :: branches, items := [] } }

/-! ## Repetitions -/

/-- Counts from here on are too large. -/
def countLimit : Nat := 0xffffffff

/-- A repetition count. -/
def readCount (cs : List Char) : Except Error Nat :=
  if countDigitLimit < cs.length then .error (.countTooLong cs.length)
  else
    let n := numberOf 10 cs
    if n < countLimit then .ok n else .error .repetitionTooLarge

/-- The bounds in braces, the opening one taken; `none` if the brace stands for itself. -/
def readBounds (ts : List Token) :
    Except Error (Option (Nat × Option Nat × List Token)) := do
  if ts.head? = some (.char '\x7d') then .ok none
  else
    let (low, rest) ← takeWhile Char.isDigit ts.length ts
    let comma ← take? ',' rest
    let (high, rest) ←
      match comma with
      | some rest => takeWhile Char.isDigit rest.length rest
      | none => .ok (low, rest)
    let some rest ← take? '\x7d' rest | .ok none
    let least ← if low = [] then .ok 0 else readCount low
    let most ← if high = [] then .ok none else (readCount high).map some
    if most.any (· < least) then refuse .leastAboveMost
    else .ok (some (least, most, rest))

/-- Repeat the last item; the mark has been taken, a mark for the order may follow. -/
def Draft.repeatLast (d : Draft) (least : Nat) (most : Option Nat) (ts : List Token) :
    Except Error (Draft × List Token) := do
  match d.frame.items with
  | [] => refuse .nothingToRepeat
  | item :: items =>
    if item.kind = .anchor then refuse .nothingToRepeat
    if item.kind = .repetition then refuse .repeatedRepetition
    let (greed, rest) ←
      match ← take? '?' ts with
      | some rest => .ok (Greed.lazy, rest)
      | none =>
        match ← take? '+' ts with
        | some rest => .ok (Greed.possessive, rest)
        | none => .ok (Greed.greedy, ts)
    let late := if d.frame.flags.template then d.late <|> some .templateRepetition else d.late
    let repeated : Item := ⟨.repetition, .repeat greed least most item.node⟩
    .ok ({ d with frame := { d.frame with items := repeated :: items }, late }, rest)

/-! ## Groups -/

/-- Begin a group that is counted. -/
def Draft.capture (d : Draft) : Draft :=
  { d with widths := d.widths ++ [none] }.enter (.capture (d.widths.length + 1)) d.frame.flags

/-- Begin a group that is counted and has a name. -/
def Draft.captureNamed (d : Draft) (name : String) : Except Error Draft :=
  if (d.names.lookup name).isSome then refuse .repeatedName
  else .ok { d.capture with names := (name, d.widths.length + 1) :: d.names }

/-- Refer to a group. -/
def Draft.refer (d : Draft) (index : Nat) : Except Error Draft := do
  if !d.isClosed index then refuse .openGroup
  d.checkBehind index
  .ok (d.push .other (.backref index d.frame.flags.fold))

/-- The value of a whole number in any script: blanks around it, a sign and single underscores
between digits are allowed. -/
def readWhole? (cs : List Char) : Option Int :=
  match Text.trimChars cs with
  | '-' :: ds => (digits none ds).map fun n => -(n : Int)
  | '+' :: ds => (digits none ds).map fun n => (n : Int)
  | ds => (digits none ds).map fun n => (n : Int)
where
  /-- `n` is the value so far, `none` where a digit has to come. -/
  digits : Option Nat → List Char → Option Nat
    | n, [] => n
    | some n, '_' :: d :: ds =>
      match Text.digitValue? d with
      | some v => digits (some (10 * n + v)) ds
      | none => none
    | n, d :: ds =>
      match Text.digitValue? d with
      | some v => digits (some (10 * n.getD 0 + v)) ds
      | none => none

/-- Begin a condition on the group with the given name or number. -/
def Draft.enterCondition (d : Draft) (name : List Char) : Except Error Draft := do
  if Text.isIdentifier name then
    match d.names.lookup (String.ofList name) with
    | none => refuse .unknownName
    | some index =>
      d.checkBehind index
      .ok (d.enter (.condition index) d.frame.flags)
  else
    match readWhole? name with
    | some (.ofNat (n + 1)) =>
      d.checkBehind (n + 1)
      .ok ({ d with conditions := (n + 1) :: d.conditions }.enter (.condition (n + 1))
        d.frame.flags)
    | _ => refuse .badName

/-- What is left after a comment. -/
def skipComment : List Token → Except Error (List Token)
  | [] => refuse .unterminatedGroup
  | t :: ts => do
    let _ ← afterFirst (t :: ts)
    if t = .char ')' then .ok ts else skipComment ts

/-- Begin a lookbehind. -/
def Draft.enterBehind (d : Draft) (negated : Bool) : Draft :=
  { d with behindFrom := d.behindFrom <|> some d.widths.length }.enter
    (.behind negated d.behindFrom.isNone) d.frame.flags

/-- A construct that begins with `(?P`, which has been taken. -/
def Draft.readNamed (d : Draft) (ts : List Token) : Except Error (Draft × List Token) := do
  if let some ts ← take? '<' ts then
    let (name, rest) ← takeName '>' ts
    if !Text.isIdentifier name then refuse .badName
    .ok (← d.captureNamed (String.ofList name), rest)
  else if let some ts ← take? '=' ts then
    let (name, rest) ← takeName ')' ts
    if !Text.isIdentifier name then refuse .badName
    match d.names.lookup (String.ofList name) with
    | none => refuse .unknownName
    | some index => .ok (← d.refer index, rest)
  else refuse .unknownExtension

/-- A construct that begins with `(?`, which has been taken. -/
def Draft.readExtension (d : Draft) : List Token → Except Error (Draft × List Token)
  | .char c :: ts => do
    let _ ← afterFirst (.char c :: ts)
    let flags := d.frame.flags
    match c with
    | 'P' => d.readNamed ts
    | ':' => .ok (d.enter (.bracket true) flags, ts)
    | '#' => .ok (d, ← skipComment ts)
    | '=' => .ok (d.enter (.ahead false) flags, ts)
    | '!' => .ok (d.enter (.ahead true) flags, ts)
    | '<' =>
      if let some ts ← take? '=' ts then .ok (d.enterBehind false, ts)
      else if let some ts ← take? '!' ts then .ok (d.enterBehind true, ts)
      else refuse .unknownExtension
    | '(' =>
      let (name, rest) ← takeName ')' ts
      .ok (← d.enterCondition name, rest)
    | '>' => .ok (d.enter .atomic flags, ts)
    | c =>
      if c = '-' ∨ flagLetters.contains c then
        let (change, rest) ← readFlags c ts
        match change with
        | .whole on =>
          if d.outer.isEmpty && d.frame.branches.isEmpty && d.frame.items.isEmpty then
            .ok ({ d with frame := { d.frame with flags := flags.addGlobal on } }, rest)
          else refuse .lateFlags
        | .scoped on off =>
          .ok (d.enter (.bracket (on.isEmpty && off.isEmpty)) (flags.scoped on off), rest)
      else refuse .unknownExtension
  | _ => refuse .unknownExtension

/-! ## Items -/

/-- The anchor that a letter stands for. -/
def anchor? (ascii : Bool) : Char → Option Anchor
  | 'A' => some .textStart
  | 'Z' => some .textEnd
  | 'b' => some (.wordEdge ascii false)
  | 'B' => some (.wordEdge ascii true)
  | _ => none

/-- A reference to a group, or a code point with three octal digits; `c` begins it. -/
def Draft.readReference (d : Draft) (c : Char) (ts : List Token) :
    Except Error (Draft × List Token) := do
  let (more, rest) ← takeWhile Char.isDigit 1 ts
  let (third, rest') ←
    if isOctalDigit c && more.all isOctalDigit && !more.isEmpty then
      takeWhile isOctalDigit 1 rest
    else .ok ([], rest)
  if third.isEmpty then
    let index := numberOf 10 (c :: more)
    if index ≤ d.widths.length then .ok (← d.refer index, rest) else refuse .unknownGroup
  else
    let n := numberOf 8 (c :: more ++ third)
    if n ≤ 0xff then .ok (d.pushCode n, rest') else refuse .badEscape

/-- An escape outside sets. -/
def Draft.readEscape (d : Draft) (c : Char) (ts : List Token) :
    Except Error (Draft × List Token) := do
  let flags := d.frame.flags
  if let some a := anchor? flags.ascii c then .ok (d.push .anchor (.anchor a), ts)
  else if let some item := kindItem? flags.ascii c then
    .ok (d.pushChar (.set [item] false flags.fold), ts)
  else if let some n := controlCode? c then .ok (d.pushCode n, ts)
  else if c = '0' then
    let (cs, rest) ← takeWhile isOctalDigit 2 ts
    .ok (d.pushCode (numberOf 8 cs), rest)
  else if c.isDigit then d.readReference c ts
  else
    let (n, rest) ← readCode c ts
    .ok (d.pushCode n, rest)

/-- White space that verbose expressions skip. -/
def isSkipped (c : Char) : Bool :=
  c == ' ' || (9 ≤ c.toNat && c.toNat ≤ 13)

/-- What is left after a comment that a line feed ends. -/
def skipLine : List Token → Except Error (List Token)
  | [] => .ok []
  | t :: ts => do
    let _ ← afterFirst (t :: ts)
    if t = .char '\n' then .ok ts else skipLine ts

/-- An item, a mark or a parenthesis: `c` has been taken. -/
def Draft.readChar (d : Draft) (c : Char) (ts : List Token) :
    Except Error (Draft × List Token) := do
  let flags := d.frame.flags
  if flags.verbose && isSkipped c then .ok (d, ts)
  else if flags.verbose && c == '#' then .ok (d, ← skipLine ts)
  else
    match c with
    | '|' => .ok (← d.nextBranch, ts)
    | ')' => .ok (← d.close, ts)
    | '[' =>
      let (test, rest) ← readSet flags.ascii flags.fold ts
      .ok (d.pushChar test, rest)
    | '?' => d.repeatLast 0 (some 1) ts
    | '*' => d.repeatLast 0 none ts
    | '+' => d.repeatLast 1 none ts
    | '\x7b' =>
      match ← readBounds ts with
      | some (least, most, rest) => d.repeatLast least most rest
      | none => .ok (d.pushCode c.toNat, ts)
    | '.' => .ok (d.push .other (.char (.any flags.dotAll)), ts)
    | '^' => .ok (d.push .anchor (.anchor (if flags.multiline then .lineStart else .textStart)), ts)
    | '$' =>
      .ok (d.push .anchor (.anchor (if flags.multiline then .lineEnd else .lastLineEnd)), ts)
    | '(' =>
      match ← take? '?' ts with
      | some rest => d.readExtension rest
      | none => .ok (d.capture, ts)
    | c => .ok (d.pushCode c.toNat, ts)

/-- One step of the reader on a text that is not used up. -/
def Draft.step (d : Draft) (t : Token) (ts : List Token) : Except Error (Draft × List Token) := do
  let _ ← afterFirst (t :: ts)
  match t with
  | .char c => d.readChar c ts
  | .escape c => d.readEscape c ts
  | .danglingBackslash => refuse .danglingBackslash

/-! ## The whole expression -/

/-- An expression and the number of its groups. -/
structure Parsed where
  regex : Regex
  groupCount : Nat
  deriving DecidableEq, Repr

/-- A parenthesis that closes nothing ends the reading; `balanced` says that none did. -/
def Draft.finish (d : Draft) (balanced : Bool) : Except Error Parsed :=
  if !d.outer.isEmpty then refuse .unterminatedGroup
  else if d.frame.flags.ascii && d.frame.flags.unicode then .error .asciiAndUnicode
  else if !balanced then refuse .unbalancedParenthesis
  else if d.conditions.any (d.widths.length < ·) then refuse .unknownGroup
  else
    match d.late with
    | some f => refuse f
    | none => .ok ⟨d.frame.toItem.node, d.widths.length⟩

/-- Read on, at most `fuel` steps. -/
def Draft.read (d : Draft) : (fuel : Nat) → List Token → Except Error Parsed
  | fuel + 1, t :: ts =>
    if t = .char ')' ∧ d.outer.isEmpty then d.finish false
    else
      match d.step t ts with
      | .ok (d', rest) => d'.read fuel rest
      | .error e => .error e
  | _, _ => d.finish true

/-- The expression that a text writes, under the given flags. -/
def parse (flags : Flags) (source : String) : Except Error Parsed :=
  let ts := tokenize source.toList
  if ts = [.danglingBackslash] then refuse .danglingBackslash
  else Draft.read { frame := { opener := .whole, flags } } ts.length ts

end CiteSieve.Regex
