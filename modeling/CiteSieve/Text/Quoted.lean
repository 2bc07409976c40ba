import CiteSieve.Text.Quoted.Table

/-!
# Quoted text in messages

A text is quoted with apostrophes, or with double quotes if it holds an apostrophe and no double
quote. The quote, the backslash and what is not printable are escaped.
-/

namespace CiteSieve.Text

/-- The character is shown as itself. -/
def isPrintable (c : Char) : Bool :=
  let n := c.toNat
  if n < 0x80 then 0x20 ≤ n && n < 0x7f else printableRanges.has n

/-- The lower-case hexadecimal digits of `n`, at least `width` of them. -/
def hex (width n : Nat) : List Char :=
  let ds := Nat.toDigits 16 n
  List.replicate (width - ds.length) '0' ++ ds

/-- A character between the quotes `q`. -/
def quoteChar (q c : Char) : List Char :=
  if c == q || c == '\\' then ['\\', c]
  else if c == '\n' then ['\\', 'n']
  else if c == '\r' then ['\\', 'r']
  else if c == '\t' then ['\\', 't']
  else if isPrintable c then [c]
  else
    let n := c.toNat
    if n < 0x100 then '\\' :: 'x' :: hex 2 n
    else if n < 0x10000 then '\\' :: 'u' :: hex 4 n
    else '\\' :: 'U' :: hex 8 n

/-- The quote that a text is put in. -/
def quoteFor (cs : List Char) : Char :=
  if cs.contains '\'' && !cs.contains '"' then '"' else '\''

/-- The text in quotes. -/
def quoted (s : String) : String :=
  let cs := s.toList
  let q := quoteFor cs
  String.ofList (q :: cs.flatMap (quoteChar q) ++ [q])

end CiteSieve.Text
