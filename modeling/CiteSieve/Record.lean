import CiteSieve.Assoc
import CiteSieve.Field

/-!
# Records

A record of a bibliography: its type, its key and its fields in order. Values are kept as they
were written; what reports show of them is derived here.
-/

namespace CiteSieve

/-- A bibliography record. -/
structure Record where
  entryType : String
  citeKey : String
  fields : Assoc String String := []
  deriving DecidableEq, Repr

namespace Record

/-- The first value under one of the names that is not empty. -/
def get (r : Record) (names : List String) : String :=
  ((names.filterMap (r.fields.lookup ·)).find? (· ≠ "")).getD ""

/-! ## What a query sees -/

/-- The names under which the text of a field is looked for, in order. -/
def aliases : Field → List String
  | .title => ["title"]
  | .abstract => ["abstract", "abs", "summary"]
  | .keywords => ["keywords", "keyword"]

/-- The text of a field. -/
def text (r : Record) (f : Field) : String :=
  r.get (aliases f)

/-- The text of a field that takes part, nothing otherwise. -/
def selectedText (r : Record) (s : Selection) (f : Field) : String :=
  if s.selects f then r.text f else ""

/-- Some field that takes part has text. -/
def isEligible (r : Record) (s : Selection) : Bool :=
  Field.all.any fun f => r.selectedText s f ≠ ""

/-! ## What reports show -/

/-- The text without braces. -/
def dropBraces (cs : List Char) : List Char :=
  cs.filter fun c => c != '\x7b' && c != '\x7d'

/-- The title with blanks collapsed and without braces. -/
def cleanTitle (r : Record) : String :=
  String.ofList (Text.trimChars (dropBraces (Text.collapse (r.text .title)).toList))

def authors (r : Record) : String :=
  Text.collapse (r.get ["author"])

def year (r : Record) : String :=
  Text.trim (r.get ["year"])

/-- Where the record was published. -/
def venue (r : Record) : String :=
  Text.collapse (r.get ["booktitle", "journal"])

def doi (r : Record) : String :=
  Text.trim (r.get ["doi"])

/-- The given address, or else the one that the DOI resolves at. -/
def resolvedUrl (r : Record) : String :=
  let url := Text.trim (r.get ["url"])
  if url ≠ "" then url
  else if r.doi ≠ "" then "https://doi.org/" ++ r.doi
  else ""

end Record

end CiteSieve
