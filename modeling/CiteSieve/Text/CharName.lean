import CiteSieve.Text.CharName.Aliases
import CiteSieve.Text.CharName.Alphabets
import CiteSieve.Text.CharName.Notations
import CiteSieve.Text.CharName.Pictographs
import CiteSieve.Text.CharName.Scripts
import CiteSieve.Text.CharName.Syllables
import CiteSieve.Text.CharName.Symbols
import CiteSieve.Text.Ranges

/-!
# Names of characters

Names of Unicode 14. Most are listed in tables: an entry either gives a code point and its name,
or is about the next code point and gives a digit, the number of leading words that its name
shares with the one before, and the other words. Names of ideographs end in their code point, and
those of Korean syllables spell them.

* `charNamed?`: the code point with a given name.
-/

namespace CiteSieve.Text

namespace CharName

/-! ## Tables -/

/-- A code point and the words of its name. -/
structure Cursor where
  code : Nat := 0
  words : List (List Char) := []
  deriving DecidableEq, Repr

/-- The value of a digit up to base sixteen, letters being capital. -/
def digitValue? (c : Char) : Option Nat :=
  if c.isDigit then some (c.toNat - '0'.toNat)
  else if 'A' ≤ c ∧ c ≤ 'F' then some (c.toNat - 'A'.toNat + 10)
  else none

/-- The number that hexadecimal digits write. -/
def hexNumber? (cs : List Char) : Option Nat :=
  cs.foldlM (fun n c => (digitValue? c).map (n * 16 + ·)) 0

/-- The code point and name that an entry gives after those of `c`. -/
def Cursor.next (c : Cursor) : List Char → Cursor
  | '=' :: entry =>
    ⟨(hexNumber? (entry.takeWhile (· ≠ ' '))).getD 0,
      ((entry.dropWhile (· ≠ ' ')).drop 1).splitOn ' '⟩
  | d :: entry => ⟨c.code + 1, c.words.take ((digitValue? d).getD 0) ++ entry.splitOn ' '⟩
  | [] => c

/-- Look for a name in the entries that follow `c`; otherwise the last of them. -/
def Cursor.findIn (wanted : List (List Char)) : Cursor → List (List Char) → Nat ⊕ Cursor
  | c, [] => .inr c
  | c, entry :: entries =>
    let c := c.next entry
    if c.words = wanted then .inl c.code else c.findIn wanted entries

/-- Look for a name in the lines of a table that follow `c`. -/
def Cursor.find? (wanted : List (List Char)) : Cursor → List String → Option Nat
  | _, [] => none
  | c, line :: lines =>
    match c.findIn wanted (line.toList.splitOn '|') with
    | .inl code => some code
    | .inr c => c.find? wanted lines

/-- All tables. -/
def tables : List (List String) :=
  [alphabetNames, symbolNames, syllableNames, scriptNames, notationNames, pictographNames,
    aliasNames]

/-- The code point whose name stands in a table. -/
def listed? (name : List Char) : Option Nat :=
  let wanted := name.splitOn ' '
  tables.findSome? (Cursor.find? wanted {})

/-! ## Names that end in a number -/

/-- What follows `start` in `cs`. -/
def after? (start : String) (cs : List Char) : Option (List Char) :=
  let start := start.toList
  if start.isPrefixOf cs then some (cs.drop start.length) else none

/-- The code point that a name ends in, if that name is made so for it. -/
def coded? (start : String) (codes : Ranges) (name : List Char) : Option Nat := do
  let digits ← after? start name
  let n ← if digits.length = 4 ∨ digits.length = 5 then hexNumber? digits else none
  if codes.has n then some n else none

/-- The ideographs of the unified blocks. -/
def unifiedIdeographs : Ranges :=
  [(0x3400, 0x4dbf), (0x4e00, 0x9fff), (0x20000, 0x2a6df), (0x2a700, 0x2b738),
    (0x2b740, 0x2b81d), (0x2b820, 0x2cea1), (0x2ceb0, 0x2ebe0), (0x30000, 0x3134a)]

/-- How further names that end in a code point begin, and their code points; these names have no
leading zeros. -/
def codedNames : List (String × Ranges) :=
  [("CJK COMPATIBILITY IDEOGRAPH-", [(0xf900, 0xfa6d), (0xfa70, 0xfad9), (0x2f800, 0x2fa1d)]),
    ("KHITAN SMALL SCRIPT CHARACTER-", [(0x18b00, 0x18cd5)]),
    ("NUSHU CHARACTER-", [(0x1b170, 0x1b2fb)])]

/-- The code point of such a name. -/
def codedNamed? (name : List Char) : Option Nat :=
  codedNames.findSome? fun (start, codes) =>
    if (after? start name).any (·.head? = some '0') then none else coded? start codes name

/-- The variation selector with the given number. -/
def selector? (n : Nat) : Option Nat :=
  if 1 ≤ n ∧ n ≤ 16 then some (0xfe00 + n - 1)
  else if 17 ≤ n ∧ n ≤ 256 then some (0xe0100 + n - 17)
  else none

/-- The variation selector that a name numbers. -/
def selectorNamed? (name : List Char) : Option Nat := do
  let digits ← after? "VARIATION SELECTOR-" name <|> after? "VS" name
  if digits.all Char.isDigit && digits.head? != some '0' then
    selector? (digits.foldl (fun n c => 10 * n + (c.toNat - '0'.toNat)) 0)
  else none

/-! ## Korean syllables -/

/-- The sounds that begin a syllable. -/
def initials : List String :=
  ["G", "GG", "N", "D", "DD", "R", "M", "B", "BB", "S", "SS", "", "J", "JJ", "C", "K", "T", "P",
    "H"]

/-- The sounds in the middle of a syllable. -/
def medials : List String :=
  ["A", "AE", "YA", "YAE", "EO", "E", "YEO", "YE", "O", "WA", "WAE", "OE", "YO", "U", "WEO", "WE",
    "WI", "YU", "EU", "YI", "I"]

/-- The sounds that end a syllable. -/
def finals : List String :=
  ["", "G", "GG", "GS", "N", "NJ", "NH", "D", "L", "LG", "LM", "LB", "LS", "LT", "LP", "LH", "M",
    "B", "BS", "S", "SS", "NG", "J", "C", "K", "T", "P", "H"]

/-- The position of the longest sound that `cs` begins with, and what follows it. -/
def longest? (sounds : List String) (cs : List Char) : Option (Nat × List Char) :=
  let fits := sounds.zipIdx.filterMap fun (s, i) => (after? s cs).map fun rest => (i, rest)
  fits.foldl (fun best fit =>
    match best with
    | some b => if fit.2.length < b.2.length then some fit else some b
    | none => some fit) none

/-- The syllable that is spelled so. -/
def syllable? (cs : List Char) : Option Nat := do
  let (initial, cs) ← longest? initials cs
  let (medial, cs) ← longest? medials cs
  let (final, cs) ← longest? finals cs
  if cs.isEmpty then
    some (0xac00 + (initial * medials.length + medial) * finals.length + final)
  else none

end CharName

/-! ## All names -/

/-- The code point with the given name. Only names of unified ideographs and of Korean syllables
have to be written in capitals. -/
def charNamed? (name : String) : Option Nat :=
  let cs := name.toList
  let capitals := cs.map Char.toUpper
  match CharName.after? "HANGUL SYLLABLE " cs with
  | some rest => CharName.syllable? rest
  | none =>
    CharName.coded? "CJK UNIFIED IDEOGRAPH-" CharName.unifiedIdeographs cs <|>
      CharName.codedNamed? capitals <|> CharName.selectorNamed? capitals <|>
      CharName.listed? capitals

end CiteSieve.Text
