import CiteSieve.Bibtex.Scan
import CiteSieve.Evaluation
import CiteSieve.Highlight
import CiteSieve.Stats

/-!
# Runs

A run sorts the records of a bibliography: a record with text in a selected field is eligible;
it is matched if the query holds of it, partial if the query fails but some block fired that is
not excluded, and unmatched otherwise. The other records are only counted.

* `Run.ofRecords` and `Run.ofText`: the run of a query over records, or over the entries of a text.
* `Run.warnings`: what is reported about a query before it is run.
-/

namespace CiteSieve

/-- What a run makes of a record. -/
inductive Outcome where
  | matched
  | partialMatch
  | unmatched
  deriving DecidableEq, Repr

def Outcome.name : Outcome → String
  | .matched => "matched"
  | .partialMatch => "partial"
  | .unmatched => "unmatched"

/-! ## Items -/

/-- A record with what a run found in it. -/
structure Item where
  record : Record
  outcome : Outcome
  /-- The names of the blocks that fired, in order. -/
  names : List String := []
  hits : HitMap := []
  /-- Of a partial record: the blocks that fired. -/
  present : List String := []
  /-- Of a partial record: the blocks that did not. -/
  missing : List String := []
  deriving DecidableEq, Repr

namespace Item

/-- The blocks that fired, as text. -/
def blocksText (i : Item) : String :=
  "; ".intercalate i.names

/-- The hits of one field, as text. -/
def fieldText (h : FieldHits) (f : Field) : String :=
  f.label ++ ": " ++ " | ".intercalate (h.get f)

/-- The hits of one block, as text. -/
def blockText (name : String) (h : FieldHits) : String :=
  name ++ " [" ++ "; ".intercalate (h.fields.map (fieldText h)) ++ "]"

/-- All hits, as text. -/
def detail (i : Item) : String :=
  "; ".intercalate ((i.hits.filter fun e => !e.2.isEmpty).map fun e => blockText e.1 e.2)

/-- The item of a record that is eligible. -/
def ofEvaluation (positive : List String) (r : Record) (e : Evaluation) : Item :=
  if e.ok then { record := r, outcome := .matched, names := e.names, hits := e.hits }
  else if e.hits ≠ [] then
    { record := r, outcome := .partialMatch, names := e.names, hits := e.hits
      present := positive.filter fun n => (e.hits.lookup n).isSome
      missing := positive.filter fun n => (e.hits.lookup n).isNone }
  else { record := r, outcome := .unmatched }

end Item

/-! ## Runs -/

/-- The counts of a run. -/
structure Summary where
  total : Nat := 0
  eligible : Nat := 0
  matched : Nat := 0
  partialMatch : Nat := 0
  unmatched : Nat := 0
  deriving DecidableEq, Repr

def Summary.text (s : Summary) : String :=
  s!"{s.total} total, {s.eligible} eligible, {s.matched} matched, " ++
    s!"{s.partialMatch} partial, {s.unmatched} unmatched"

/-- The result of a run. -/
structure Run where
  matched : List Item := []
  partialMatch : List Item := []
  unmatched : List Item := []
  summary : Summary := {}
  stats : TermStats := {}
  highlighter : Highlighter := {}
  deriving DecidableEq, Repr

/-- Why a run fails. -/
inductive RunError where
  | noEntries (e : Bibtex.NoEntries)
  | badTerm (e : Regex.Error)
  deriving DecidableEq, Repr

def RunError.message : RunError → String
  | .noEntries e => e.message
  | .badTerm e => e.message

namespace Run

/-- The items of the eligible records, in order. -/
def items (q : CompiledQuery) (rs : List Record) : List Item :=
  (rs.filter (·.isEligible q.searchFields)).map fun r =>
    Item.ofEvaluation q.positiveNames r (q.evaluateRecord q.searchFields r)

/-- The items with the given outcome. -/
def bucket (o : Outcome) (is : List Item) : List Item :=
  is.filter (·.outcome = o)

/-- The run of a query over records. -/
def ofRecords (q : Query) (rs : List Record) : Except Regex.Error Run := do
  let compiled ← q.compile
  let is := items compiled rs
  let matched := bucket .matched is
  let partialMatch := bucket .partialMatch is
  let unmatched := bucket .unmatched is
  .ok
    { matched, partialMatch, unmatched
      summary := ⟨rs.length, is.length, matched.length, partialMatch.length, unmatched.length⟩
      stats := .aggregate (some q) (matched.map Item.hits)
      highlighter := ⟨compiled.caseInsensitive, compiled.regexNames⟩ }

/-- The run of a query over the entries of a text. -/
def ofText (q : Query) (text : String) : Except RunError Run :=
  match Bibtex.parse text with
  | .error e => .error (.noEntries e)
  | .ok rs =>
    match ofRecords q rs with
    | .error e => .error (.badTerm e)
    | .ok r => .ok r

/-- What is reported about a query before it is run. -/
def warnings (q : Query) : List String :=
  (if q.isConsistent then []
    else [s!"Query has {q.blocks.length} blocks but {q.operators.length} operators"]) ++
  (if q.hasUniqueNames then []
    else ["Duplicate block names share hit map entries: " ++ ", ".intercalate q.sharedNames])

/-- The items in the order matched, partial, unmatched. -/
def all (r : Run) : List Item :=
  r.matched ++ r.partialMatch ++ r.unmatched

/-- The first item with the given key. -/
def get? (r : Run) (citeKey : String) : Option Item :=
  r.all.find? (·.record.citeKey == citeKey)

/-- The spans to paint on one field of an item. -/
def highlight (r : Run) (i : Item) (f : Field) : Except Regex.Error (List Span) :=
  r.highlighter.spans (i.record.text f) f i.hits

end Run

end CiteSieve
