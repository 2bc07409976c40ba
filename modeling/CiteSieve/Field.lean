import CiteSieve.Text.Blank
import CiteSieve.Text.Case

/-!
# Search fields

The three fields of a record that a query looks at, and the choice of those that take part.

* `Selection.ofNames` reads a choice from names, in any case and with blanks around them; it is
  refused with all names that are not fields.
-/

namespace CiteSieve

/-- A field that a query looks at. -/
inductive Field where
  | title
  | abstract
  | keywords
  deriving DecidableEq, Repr

namespace Field

/-- The fields in order. -/
def all : List Field :=
  [.title, .abstract, .keywords]

/-- The name of a field in queries and files. -/
def name : Field → String
  | .title => "title"
  | .abstract => "abstract"
  | .keywords => "keywords"

/-- The name of a field in reports. -/
def label : Field → String
  | .title => "Title"
  | .abstract => "Abstract"
  | .keywords => "Keywords"

/-- The field with the given name. -/
def ofName? (s : String) : Option Field :=
  all.find? (·.name == s)

theorem mem_all (f : Field) : f ∈ all := by
  cases f <;> simp [all]

theorem ofName?_name (f : Field) : ofName? f.name = some f := by
  cases f <;> decide

theorem name_injective {f g : Field} (h : f.name = g.name) : f = g := by
  have hf := ofName?_name f
  rw [h, ofName?_name] at hf
  exact (Option.some.inj hf).symm

end Field

/-- Which fields take part. -/
structure Selection where
  title : Bool := true
  abstract : Bool := true
  keywords : Bool := true
  deriving DecidableEq, Repr

namespace Selection

/-- The field takes part. -/
def selects (s : Selection) : Field → Bool
  | .title => s.title
  | .abstract => s.abstract
  | .keywords => s.keywords

/-- The fields that take part, in order. -/
def fields (s : Selection) : List Field :=
  Field.all.filter s.selects

/-- The choice of the fields that satisfy `p`. -/
def ofPred (p : Field → Bool) : Selection :=
  ⟨p .title, p .abstract, p .keywords⟩

/-- Each once, in order of code points. -/
def sortedNames (names : List String) : List String :=
  names.eraseDups.mergeSort fun a b => !decide (b < a)

/-- The names that are no fields, when a choice was to be read from names. -/
structure UnknownFields where
  names : List String
  deriving DecidableEq, Repr

def UnknownFields.message (e : UnknownFields) : String :=
  "Unknown search field(s): " ++ ", ".intercalate e.names

/-- The choice that names make; blank names say nothing. -/
def ofNames (names : List String) : Except UnknownFields Selection :=
  let wanted := (names.filter fun n => !Text.allBlank n).map fun n => Text.lower (Text.trim n)
  let unknown := wanted.filter fun n => (Field.ofName? n).isNone
  if unknown = [] then .ok (ofPred fun f => wanted.contains f.name)
  else .error ⟨sortedNames unknown⟩

end Selection

end CiteSieve
