import CiteSieve.Text.Case
import CiteSieve.Text.Word
import CiteSieve.Text.Blank

/-!
# Regular expressions

The expression tree, with every flag already resolved into its nodes, and the tests on a single
character. A code point is a `Nat`, so that an expression may name one that no text can hold.

* `Fold` says how letters compare: exactly, up to ASCII case or up to Unicode case.
* `CharTest.accepts` decides whether a test accepts a character. Without regard to case, the
  character is lowered first, and a listed letter stands for all letters that share its capital.
* `Regex.width` bounds the length of the texts that an expression matches.
-/

namespace CiteSieve

/-- How letters compare. -/
inductive Fold where
  | exact
  | ascii
  | unicode
  deriving DecidableEq, Repr

/-- The form of a code point that `fold` compares. -/
def Fold.key : Fold → Nat → Nat
  | .exact, n => n
  | .ascii, n => Text.lowerAsciiCode n
  | .unicode, n => Text.lowerCode n

/-- The code points that `fold` cannot tell from the key `n`. -/
def Fold.variants : Fold → Nat → List Nat
  | .unicode, n => Text.caseVariants n
  | _, n => [n]

/-- The code points with the key `n`. -/
def Fold.preimages : Fold → Nat → List Nat
  | .exact, n => [n]
  | .ascii, n => if 0x61 ≤ n && n ≤ 0x7a then [n, n - 0x20] else [n]
  | .unicode, n => Text.lowerPreimages n

/-! ## Tests on one character -/

/-- A kind of character. -/
inductive CharKind where
  | digit
  | blank
  | word
  deriving DecidableEq, Repr

/-- The code point of a character is of the kind, among ASCII only if `ascii`. -/
def CharKind.holds (k : CharKind) (ascii : Bool) (n : Nat) : Bool :=
  let c := Char.ofNat n
  match k, ascii with
  | .digit, false => Text.isDigit c
  | .digit, true => c.isDigit
  | .blank, false => Text.isBlank c
  | .blank, true => (9 ≤ n && n ≤ 13) || n == 32
  | .word, false => Text.isWord c
  | .word, true => Text.isAsciiWord c

/-- An entry of a character set. -/
inductive SetItem where
  | code (n : Nat)
  | range (first last : Nat)
  | kind (k : CharKind) (ascii negated : Bool)
  deriving DecidableEq, Repr

/-- Code points from here on lie beyond the basic plane. -/
def basicPlaneEnd : Nat := 0x10000

/-- The entry accepts the key `n` of a character. Beyond the basic plane a listed letter stands
for itself, and a range is asked for the key and for its capital. -/
def SetItem.accepts (fold : Fold) (n : Nat) : SetItem → Bool
  | .code m =>
    let key := fold.key m
    if key < basicPlaneEnd then (fold.variants key).contains n else m == n
  | .range first last =>
    match fold with
    | .exact => first ≤ n && n ≤ last
    | _ =>
      let basic := min last (basicPlaneEnd - 1)
      ((fold.variants n).any fun v =>
        (fold.preimages v).any fun m => decide (first ≤ m) && decide (m ≤ basic)) ||
      (basicPlaneEnd ≤ last &&
        ((first ≤ n && n ≤ last) ||
          (first ≤ Text.capitalCode n && Text.capitalCode n ≤ last)))
  | .kind k ascii negated => k.holds ascii n != negated

/-- A test on one character. -/
inductive CharTest where
  /-- Any character, the line feed only if `lineFeed`. -/
  | any (lineFeed : Bool)
  /-- The code point `n`, or any other one if `negated`. -/
  | one (n : Nat) (negated : Bool) (fold : Fold)
  /-- A member of the set, or any other character if `negated`. -/
  | set (items : List SetItem) (negated : Bool) (fold : Fold)
  deriving DecidableEq, Repr

/-- The test accepts the character. -/
def CharTest.accepts : CharTest → Char → Bool
  | .any lineFeed, c => lineFeed || c != '\n'
  | .one n negated fold, c => (fold.variants (fold.key n)).contains (fold.key c.toNat) != negated
  | .set items negated fold, c => items.any (SetItem.accepts fold (fold.key c.toNat)) != negated

/-! ## Expressions -/

/-- A condition on a position. -/
inductive Anchor where
  | textStart
  | lineStart
  | textEnd
  | lineEnd
  /-- At the end, or before a line feed that ends the text. -/
  | lastLineEnd
  /-- Between a word character and another one; `negated`: anywhere else in a non-empty text. -/
  | wordEdge (ascii negated : Bool)
  deriving DecidableEq, Repr

/-- In which order a repetition tries its counts. -/
inductive Greed where
  | greedy
  | lazy
  /-- Takes all it can and gives nothing back. -/
  | possessive
  deriving DecidableEq, Repr

/-- A regular expression. -/
inductive Regex where
  | empty
  | char (test : CharTest)
  | anchor (a : Anchor)
  | seq (first second : Regex)
  | alt (first second : Regex)
  | repeat (greed : Greed) (least : Nat) (most : Option Nat) (body : Regex)
  | group (index : Nat) (body : Regex)
  | backref (index : Nat) (fold : Fold)
  /-- What follows matches `body`, or does not if `negated`. -/
  | ahead (negated : Bool) (body : Regex)
  /-- The `back` characters before match `body`, or do not if `negated`. -/
  | behind (negated : Bool) (back : Nat) (body : Regex)
  | atomic (body : Regex)
  /-- `yes` if the group has matched, `no` otherwise. -/
  | ifGroup (index : Nat) (yes no : Regex)
  deriving DecidableEq, Repr

namespace Regex

/-- One after the other. -/
def ofSeq : List Regex → Regex
  | [] => .empty
  | [r] => r
  | r :: rs => .seq r (ofSeq rs)

/-- The first one that fits. -/
def ofAlt : List Regex → Regex
  | [] => .empty
  | [r] => r
  | r :: rs => .alt r (ofAlt rs)

/-- The characters of a text, one after the other. -/
def literal (fold : Fold) (cs : List Char) : Regex :=
  cs.foldr (fun c r => .seq (.char (.one c.toNat false fold)) r) .empty

/-- An edge of a word. -/
def edge : Regex :=
  .anchor (.wordEdge false false)

/-! ## Widths -/

/-- Least and greatest length of a match. -/
structure Width where
  least : Nat
  most : Nat
  deriving DecidableEq, Repr

/-- Lengths are counted up to here, which also stands for "no bound". -/
def widthLimit : Nat := 0x10000000000000000

/-- The bounds, counted up to `widthLimit`. -/
def Width.capped (w : Width) : Width :=
  ⟨min w.least widthLimit, min w.most widthLimit⟩

/-- Bounds for a repetition. -/
def Width.times (w : Width) (least : Nat) : Option Nat → Width
  | some most => ⟨w.least * least, w.most * most⟩
  | none => ⟨w.least * least, if w.most = 0 then 0 else widthLimit⟩

/-- Bounds for the lengths of the matches, given bounds for the groups. -/
def width (groups : Nat → Width) : Regex → Width
  | .empty => ⟨0, 0⟩
  | .char _ => ⟨1, 1⟩
  | .anchor _ => ⟨0, 0⟩
  | .seq a b =>
    let wa := a.width groups
    let wb := b.width groups
    Width.capped ⟨wa.least + wb.least, wa.most + wb.most⟩
  | .alt a b =>
    let wa := a.width groups
    let wb := b.width groups
    Width.capped ⟨min wa.least wb.least, max wa.most wb.most⟩
  | .repeat _ least most body => Width.capped ((body.width groups).times least most)
  | .group _ body => body.width groups
  | .backref index _ => groups index
  | .ahead _ _ => ⟨0, 0⟩
  | .behind _ _ _ => ⟨0, 0⟩
  | .atomic body => body.width groups
  | .ifGroup _ yes no =>
    let wy := yes.width groups
    let wn := no.width groups
    Width.capped ⟨min wy.least wn.least, max wy.most wn.most⟩

end Regex

end CiteSieve
