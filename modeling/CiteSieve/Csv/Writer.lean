/-!
# Writing tables as text

A table is written line by line, its cells separated by a delimiter. A cell that holds the
delimiter, the quote or a line feed is quoted, and every quote in it is written twice.
-/

namespace CiteSieve.Csv

/-! ## Dialects -/

/-- The characters that structure a table. -/
structure Dialect where
  delimiter : Char := ','
  quote : Char := '"'
  deriving DecidableEq, Repr

/-- A text that should be one character is none. -/
inductive DialectError where
  | delimiter
  | quote
  deriving DecidableEq, Repr

def DialectError.message : DialectError → String
  | .delimiter => "\"delimiter\" must be a 1-character string"
  | .quote => "\"quotechar\" must be a 1-character string"

/-- The dialect with the given characters. -/
def Dialect.ofTexts (delimiter quote : String) : Except DialectError Dialect :=
  match delimiter.toList, quote.toList with
  | [d], [q] => .ok ⟨d, q⟩
  | [_], _ => .error .quote
  | _, _ => .error .delimiter

/-! ## Cells and rows -/

/-- The character may only stand in a quoted cell. -/
def Dialect.isSpecial (d : Dialect) (c : Char) : Bool :=
  c == d.delimiter || c == d.quote || c == '\n'

/-- The text with every quote written twice. -/
def Dialect.doubleQuotes (d : Dialect) (cs : List Char) : List Char :=
  cs.flatMap fun c => if c = d.quote then [c, c] else [c]

/-- A cell as it is written. -/
def Dialect.printCell (d : Dialect) (cs : List Char) : List Char :=
  if cs.any d.isSpecial then d.quote :: (d.doubleQuotes cs ++ [d.quote]) else cs

/-- A row as it is written. -/
def Dialect.printRow (d : Dialect) (row : List String) : List Char :=
  [d.delimiter].intercalate (row.map fun s => d.printCell s.toList) ++ ['\n']

/-- A table as text. -/
def print (d : Dialect) (rows : List (List String)) : String :=
  String.ofList (rows.flatMap d.printRow)

end CiteSieve.Csv
