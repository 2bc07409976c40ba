import CiteSieve.Bibtex.Printer
import CiteSieve.Csv.Writer
import CiteSieve.Run

/-!
# Exports

What a run matched, as a table with one row for each record and as a bibliography.
-/

namespace CiteSieve

/-- The heads of the columns of the exported table. -/
def csvHeaders : List String :=
  ["CiteKey", "Title", "Authors", "Year", "Venue", "URL/DOI", "Matched Blocks",
    "Matched Terms (by block & field)"]

/-- The cells of a record in the exported table. -/
def Item.csvRow (i : Item) : List String :=
  [i.record.citeKey, i.record.cleanTitle, i.record.authors, i.record.year, i.record.venue,
    i.record.resolvedUrl, i.blocksText, i.detail]

/-- Items as a table. -/
def csvOfItems (d : Csv.Dialect) (is : List Item) : String :=
  Csv.print d (csvHeaders :: is.map Item.csvRow)

namespace Run

/-- What was matched, as a table. -/
def toCsv (r : Run) : String :=
  csvOfItems {} r.matched

/-- What was matched, as a bibliography. -/
def toBibtex (r : Run) : String :=
  Bibtex.formatAll (r.matched.map Item.record)

end Run

end CiteSieve
