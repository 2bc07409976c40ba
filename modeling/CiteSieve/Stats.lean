import CiteSieve.Hits
import CiteSieve.Query.Basic

/-!
# Term statistics

How many records each term hit, and how often it hit each field. Every usable term of a block
that is not excluded is listed, also when it never hit.

* `TermStats.aggregate`: the statistics of the hit maps of a run.
* `TermStats.topTerms`: the terms that hit most records.
-/

namespace CiteSieve

/-- The counts of one term in one block. -/
structure TermCount where
  /-- Records that were hit. -/
  documents : Nat := 0
  title : Nat := 0
  abstract : Nat := 0
  keywords : Nat := 0
  deriving DecidableEq, Repr

namespace TermCount

/-- Hits of the field. -/
def get (c : TermCount) : Field → Nat
  | .title => c.title
  | .abstract => c.abstract
  | .keywords => c.keywords

/-- Hits of all fields. -/
def fieldTotal (c : TermCount) : Nat :=
  c.title + c.abstract + c.keywords

/-- One more hit of a field. -/
def addField (c : TermCount) : Field → TermCount
  | .title => { c with title := c.title + 1 }
  | .abstract => { c with abstract := c.abstract + 1 }
  | .keywords => { c with keywords := c.keywords + 1 }

/-- One more record. -/
def addDocument (c : TermCount) : TermCount :=
  { c with documents := c.documents + 1 }

end TermCount

/-- The counts of the terms of one block. -/
abbrev BlockStats := Assoc String TermCount

/-- The statistics of one run. -/
structure TermStats where
  /-- Records that a term hit, in whatever block. -/
  overall : Assoc String Nat := []
  title : Assoc String Nat := []
  abstract : Assoc String Nat := []
  keywords : Assoc String Nat := []
  byBlock : Assoc String BlockStats := []
  documents : Nat := 0
  deriving DecidableEq, Repr

namespace TermStats

/-- How often terms hit the field. -/
def fieldCounts (s : TermStats) : Field → Assoc String Nat
  | .title => s.title
  | .abstract => s.abstract
  | .keywords => s.keywords

/-! ## Counting -/

/-- One more under the key. -/
def countUp (m : Assoc String Nat) (k : String) : Assoc String Nat :=
  m.alter (fun n => n.getD 0 + 1) k

/-- Change the counts of a term of a block. -/
def alterTerm (m : Assoc String BlockStats) (block term : String) (f : TermCount → TermCount) :
    Assoc String BlockStats :=
  m.alter (fun b => Assoc.alter (fun c => f (c.getD {})) term (b.getD [])) block

/-- The tables that a query starts with: its usable terms, none of which has hit. -/
def seed (q : Query) : Assoc String BlockStats :=
  (q.blocks.filter fun b => !b.exclude).foldl
    (fun m b => b.usableTerms.foldl (fun m t => alterTerm m b.name t id) m) []

/-- The hits of a block, one by one. -/
def occurrences (h : FieldHits) : List (Field × String) :=
  Field.all.flatMap fun f => (h.get f).map fun t => (f, t)

/-- The terms that hit, each once. -/
def hitTerms (h : FieldHits) : List String :=
  ((occurrences h).map Prod.snd).eraseDups

/-- One more hit. -/
def addHit (block : String) (s : TermStats) (hit : Field × String) : TermStats :=
  let s := { s with byBlock := alterTerm s.byBlock block hit.2 (·.addField hit.1) }
  match hit.1 with
  | .title => { s with title := countUp s.title hit.2 }
  | .abstract => { s with abstract := countUp s.abstract hit.2 }
  | .keywords => { s with keywords := countUp s.keywords hit.2 }

/-- The hits of one block in one more record. -/
def addBlock (s : TermStats) (entry : String × FieldHits) : TermStats :=
  let s := (occurrences entry.2).foldl (addHit entry.1) s
  { s with
    byBlock := (hitTerms entry.2).foldl
      (fun m t => alterTerm m entry.1 t TermCount.addDocument) s.byBlock }

/-- The terms of one record, each once. -/
def recordTerms (m : HitMap) : List String :=
  (m.flatMap fun e => hitTerms e.2).eraseDups

/-- The hits of one more record. -/
def addRecord (s : TermStats) (m : HitMap) : TermStats :=
  let s := m.foldl addBlock s
  { s with overall := (recordTerms m).foldl countUp s.overall, documents := s.documents + 1 }

/-- The terms of all blocks. -/
def allTerms (m : Assoc String BlockStats) : List String :=
  m.flatMap fun e => e.2.keys

/-- The statistics of the hit maps of the records that matched. -/
def aggregate (q : Option Query) (hitMaps : List HitMap) : TermStats :=
  let start : TermStats := { byBlock := (q.map seed).getD [] }
  let s := hitMaps.foldl addRecord start
  { s with overall := (allTerms s.byBlock).foldl (fun m t => m.putIfNew t 0) s.overall }

/-! ## Reports -/

/-- `a` is listed before `b`: the greater count, then the smaller term. -/
def ranksBefore (a b : String × Nat) : Bool :=
  decide (b.2 < a.2) || (a.2 == b.2 && !decide (b.1 < a.1))

/-- The first `limit` members, or all but the last `-limit`. -/
def takeLimit {α : Type} (limit : Int) (xs : List α) : List α :=
  if 0 ≤ limit then xs.take limit.toNat else xs.take (xs.length - (-limit).toNat)

/-- The terms that hit most records. -/
def topTerms (s : TermStats) (limit : Int) : List (String × Nat) :=
  takeLimit limit (s.overall.mergeSort ranksBefore)

/-- The counts of a block. -/
def block (s : TermStats) (name : String) : BlockStats :=
  (s.byBlock.lookup name).getD []

/-- The terms of a block that hit nothing. -/
def unmatchedTerms (s : TermStats) (name : String) : List String :=
  ((s.block name).filter fun e => e.2.documents == 0).map Prod.fst

end TermStats

end CiteSieve
