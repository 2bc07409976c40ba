import CiteSieve.Export
import CiteSieve.Main
import CiteSieve.Markup
import CiteSieve.Query.Edit
import CiteSieve.Proofs.Bibtex.RoundTrip
import CiteSieve.Proofs.Pasted.RoundTrip
import CiteSieve.Proofs.Query.Reading
import CiteSieve.Proofs.Query.Saved
import CiteSieve.Proofs.Query.Edited
import CiteSieve.Proofs.Query.Inserted
import CiteSieve.Proofs.Evaluation.Hits
import CiteSieve.Proofs.Highlight.Occurrences
import CiteSieve.Proofs.Highlight.Segments
import CiteSieve.Proofs.Highlight.Painting
import CiteSieve.Proofs.Bibtex.Found
import CiteSieve.Proofs.Bibtex.Reread
import CiteSieve.Proofs.Run.Appended
import CiteSieve.Proofs.Run.Unselected
import CiteSieve.Proofs.Bibtex.Chunks
import CiteSieve.Proofs.Bibtex.Local
import CiteSieve.Proofs.Regex.Escaped
import CiteSieve.Proofs.Regex.Literal
import CiteSieve.Proofs.Regex.Readers
import CiteSieve.Proofs.Regex.Refused
import CiteSieve.Proofs.Run.Fallback
import CiteSieve.Proofs.Query.Loaded
import CiteSieve.Proofs.Evaluation.Decided
import CiteSieve.Proofs.CommandLine.Resaved
import CiteSieve.Proofs.Bibtex.Lines
import CiteSieve.Proofs.Term.Words
import CiteSieve.Proofs.Regex.Joined
import CiteSieve.Proofs.Term.Joined
import CiteSieve.Proofs.Highlight.Visible
import CiteSieve.Proofs.Bibtex.Levels
import CiteSieve.Proofs.Bibtex.FieldLevels
import CiteSieve.Proofs.Run.Widened
import CiteSieve.Proofs.Run.Explained
import CiteSieve.Proofs.Run.Statistics
import CiteSieve.Proofs.Pasted.Operators
import CiteSieve.Proofs.Pasted.Enclosed
import CiteSieve.Proofs.Pasted.Canonical
import CiteSieve.Proofs.Pasted.Conjunction
import CiteSieve.Proofs.Query.Named
import CiteSieve.Proofs.Query.Unwritten
import CiteSieve.Proofs.Csv.Reader
import CiteSieve.Proofs.Csv.RoundTrip
import CiteSieve.Proofs.Bibtex.Assignments
import CiteSieve.Proofs.Text.Squeezed
import CiteSieve.Proofs.Pasted.Chain
import CiteSieve.Proofs.Pasted.Layout
import CiteSieve.Proofs.Pasted.Spacing
import CiteSieve.Proofs.Highlight.Leftmost
import CiteSieve.Proofs.Markup.Painted
import CiteSieve.Proofs.Report.Verbatim
