import CiteSieve.Files.Tree
import CiteSieve.Json.Bytes
import CiteSieve.Json.Decode
import CiteSieve.Json.Printer
import CiteSieve.Query.Basic
import CiteSieve.Text.Encoding

/-!
# Saved queries

A query is saved as a JSON object. To load, an object must have blocks and operators; everything
else may be missing, and members that are not known are ignored. A block must have a name.

* `Query.save` and `Query.load`: the document of a query and the query of a document.
* `Query.loadFile`: the query of a file.
-/

namespace CiteSieve

/-! ## Encoding -/

def Block.toJson (b : Block) : Json :=
  .obj [("name", .str b.name), ("terms", .arr (b.terms.map Json.str)),
    ("isRegex", .bool b.isRegex), ("exclude", .bool b.exclude), ("id", .str b.id)]

def Operator.toJson (o : Operator) : Json :=
  .str o.name

def Selection.toJson (s : Selection) : Json :=
  .obj (Field.all.map fun f => (f.name, .bool (s.selects f)))

def Query.toJson (q : Query) : Json :=
  .obj [("blocks", .arr (q.blocks.map Block.toJson)),
    ("operators", .arr (q.operators.map Operator.toJson)),
    ("caseInsensitive", .bool q.caseInsensitive), ("searchFields", q.searchFields.toJson)]

/-- The document of a query. -/
def Query.save (q : Query) : String :=
  q.toJson.print

/-! ## Decoding -/

/-- Take in a member of a block. -/
def Block.takeMember (b : Block) (key : String) (v : Json) : Except Json.Mismatch Block :=
  Json.within (.member key)
    (if key = "name" then (Json.toText v).map fun name => { b with name }
    else if key = "terms" then (Json.toList Json.toText v).map fun terms => { b with terms }
    else if key = "isRegex" then (Json.toBool v).map fun isRegex => { b with isRegex }
    else if key = "exclude" then (Json.toBool v).map fun exclude => { b with exclude }
    else if key = "id" then (Json.toText v).map fun id => { b with id }
    else .ok b)

/-- The value is an object with the member. -/
def Json.hasMember (key : String) : Json → Bool
  | .obj ms => (ms.lookup key).isSome
  | _ => false

/-- The block of a document. -/
def Block.ofJson (v : Json) : Except Json.Mismatch Block := do
  let b ← Json.foldMembers Block.takeMember { name := "" } v
  if v.hasMember "name" then .ok b else .error ⟨.missingMember "name", []⟩

/-- The operator of a document. -/
def Operator.ofJson (v : Json) : Except Json.Mismatch Operator := do
  let s ← v.toText
  match Operator.ofName? s with
  | some o => .ok o
  | none => .error ⟨.notListed s, []⟩

/-- Take in a member of a choice of fields. -/
def Selection.takeMember (s : Selection) (key : String) (v : Json) :
    Except Json.Mismatch Selection :=
  Json.within (.member key)
    (match Field.ofName? key with
    | some .title => v.toBool.map fun title => { s with title }
    | some .abstract => v.toBool.map fun abstract => { s with abstract }
    | some .keywords => v.toBool.map fun keywords => { s with keywords }
    | none => .ok s)

/-- The choice of fields of a document. -/
def Selection.ofJson (v : Json) : Except Json.Mismatch Selection :=
  Json.foldMembers Selection.takeMember {} v

/-- Take in a member of a query. -/
def Query.takeMember (q : Query) (key : String) (v : Json) : Except Json.Mismatch Query :=
  Json.within (.member key)
    (if key = "blocks" then (Json.toList Block.ofJson v).map fun blocks => { q with blocks }
    else if key = "operators" then
      (Json.toList Operator.ofJson v).map fun operators => { q with operators }
    else if key = "caseInsensitive" then
      v.toBool.map fun caseInsensitive => { q with caseInsensitive }
    else if key = "searchFields" then
      (Selection.ofJson v).map fun searchFields => { q with searchFields }
    else .ok q)

/-- The query of a document, of which every member may be missing. -/
def Query.ofJson (v : Json) : Except Json.Mismatch Query :=
  Json.foldMembers Query.takeMember {} v

/-! ## Loading -/

/-- Why a document holds no query. -/
inductive LoadProblem where
  | unreadable (e : FileError)
  | flaw (f : Json.Flaw)
  | notObject
  /-- Members that a document must have. -/
  | missing (keys : List String)
  | mismatch (m : Json.Mismatch)
  deriving DecidableEq, Repr

def LoadProblem.message : LoadProblem → String
  | .unreadable e => "cannot read file: " ++ e.message
  | .flaw f => f.message
  | .notObject => "expected a JSON object"
  | .missing keys => "missing " ++ ", ".intercalate keys
  | .mismatch m => m.message

/-- Why a document with a name cannot be loaded. -/
inductive LoadError where
  | invalid (source : String) (problem : LoadProblem)
  /-- A string of the document is no UTF-8. -/
  | undecodable (e : Text.Utf8Flaw)
  deriving DecidableEq, Repr

def LoadError.message : LoadError → String
  | .invalid source problem =>
    "Invalid query configuration in " ++ source ++ ": " ++ problem.message
  | .undecodable e => e.message

namespace Query

/-- The members that the document of a query must have. -/
def requiredKeys : List String :=
  ["blocks", "operators"]

/-- The query of a document. -/
def ofDocument (v : Json) : Except LoadProblem Query :=
  match v with
  | .obj ms =>
    match requiredKeys.filter fun k => (ms.lookup k).isNone with
    | [] =>
      match Query.ofJson v with
      | .ok q => .ok q
      | .error m => .error (.mismatch m)
    | keys => .error (.missing keys)
  | _ => .error .notObject

/-- The query of the text of a document. -/
def ofText (text : String) : Except LoadProblem Query :=
  match Json.parse text with
  | .ok v => ofDocument v
  | .error f => .error (.flaw f)

/-- The query of the text of a document with a name. -/
def load (text source : String) : Except LoadError Query :=
  (ofText text).mapError (.invalid source)

/-- The query of the bytes of a document with a name. -/
def loadBytes (bytes : ByteArray) (source : String) : Except LoadError Query :=
  match Json.parseBytes bytes with
  | .ok v => (ofDocument v).mapError (.invalid source)
  | .error (.flaw f) => .error (.invalid source (.flaw f))
  | .error (.undecodable e) => .error (.undecodable e)

/-- The query of a file. -/
def loadFile (files : FileTree) (p : Path) : Except LoadError Query :=
  match files.read p with
  | .ok bytes => loadBytes bytes p.toString
  | .error e => .error (.invalid p.toString (.unreadable e))

/-- What is reported about a query that was loaded. -/
def loadWarnings (q : Query) (source : String) : List String :=
  if q.isConsistent then []
  else [s!"{source}: {q.blocks.length} blocks but {q.operators.length} operators"]

end Query

end CiteSieve
