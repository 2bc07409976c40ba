import CiteSieve.Record

/-!
# Writing entries

A record is written with one field on a line, every value in braces.
-/

namespace CiteSieve.Bibtex

/-- A field on its line. -/
def formatField (key value : String) : String :=
  "  " ++ key ++ " = \x7b" ++ value ++ "\x7d"

/-- A record as an entry. -/
def format (r : Record) : String :=
  let header := "@" ++ r.entryType ++ "\x7b" ++ r.citeKey ++ ","
  let fields := ",\n".intercalate (r.fields.map fun (k, v) => formatField k v)
  "\n".intercalate ([header] ++ (if r.fields.isEmpty then [] else [fields]) ++ ["\x7d"])

/-- Records as entries, a blank line between them. -/
def formatAll (rs : List Record) : String :=
  "\n\n".intercalate (rs.map format)

end CiteSieve.Bibtex
