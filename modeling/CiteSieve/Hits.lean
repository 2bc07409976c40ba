import CiteSieve.Assoc
import CiteSieve.Field

/-!
# Hits

Which terms of a block hit which fields of a record, and the hits of several blocks by name.
-/

namespace CiteSieve

/-- The terms of one block that hit, field by field. -/
structure FieldHits where
  title : List String := []
  abstract : List String := []
  keywords : List String := []
  deriving DecidableEq, Repr

namespace FieldHits

/-- The terms that hit the field. -/
def get (h : FieldHits) : Field → List String
  | .title => h.title
  | .abstract => h.abstract
  | .keywords => h.keywords

/-- The hits that `f` gives for each field. -/
def ofFun (f : Field → List String) : FieldHits :=
  ⟨f .title, f .abstract, f .keywords⟩

/-- The fields that were hit, in order. -/
def fields (h : FieldHits) : List Field :=
  Field.all.filter fun f => h.get f ≠ []

/-- No field was hit. -/
def isEmpty (h : FieldHits) : Bool :=
  h.fields.isEmpty

@[simp] theorem get_ofFun (f : Field → List String) (x : Field) : (ofFun f).get x = f x := by
  cases x <;> rfl

end FieldHits

/-- The hits of several blocks by name. -/
abbrev HitMap := Assoc String FieldHits

end CiteSieve
