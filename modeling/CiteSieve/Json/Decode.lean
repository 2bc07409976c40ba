import CiteSieve.Json.Basic
import CiteSieve.Text.Quoted

/-!
# Taking values out of documents

A decoder takes a document apart and reports the first place where the document is not what is
asked for. Nothing is converted: a string is no number and a number no truth value.
-/

namespace CiteSieve.Json

/-! ## Mismatches -/

/-- A step into a document. -/
inductive Step where
  | member (key : String)
  | element (index : Nat)
  deriving DecidableEq, Repr

def Step.text : Step → String
  | .member key => "." ++ key
  | .element index => s!"[{index}]"

/-- In which way a value is not what is asked for. -/
inductive Fault where
  | kind (expected got : String)
  | missingMember (key : String)
  /-- A string that is none of those that are allowed. -/
  | notListed (value : String)
  deriving DecidableEq, Repr

def Fault.message : Fault → String
  | .kind expected got => s!"Expected `{expected}`, got `{got}`"
  | .missingMember key => s!"Object missing required field `{key}`"
  | .notListed value => "Invalid enum value " ++ Text.quoted value

/-- A fault and the steps that lead to it. -/
structure Mismatch where
  fault : Fault
  steps : List Step := []
  deriving DecidableEq, Repr

def Mismatch.message (m : Mismatch) : String :=
  if m.steps = [] then m.fault.message
  else m.fault.message ++ " - at `$" ++ String.join (m.steps.map Step.text) ++ "`"

/-- What is wrong below a step, as seen from above it. -/
def Mismatch.under (s : Step) (m : Mismatch) : Mismatch :=
  { m with steps := s :: m.steps }

/-! ## Decoders -/

/-- The result of decoding below a step, as seen from above it. -/
def within {α : Type} (s : Step) (r : Except Mismatch α) : Except Mismatch α :=
  r.mapError (Mismatch.under s)

/-- The value is not of the kind that is asked for. -/
def refuse {α : Type} (expected : String) (v : Json) : Except Mismatch α :=
  .error ⟨.kind expected v.kind, []⟩

def toText : Json → Except Mismatch String
  | .str s => .ok s
  | v => refuse "str" v

def toBool : Json → Except Mismatch Bool
  | .bool b => .ok b
  | v => refuse "bool" v

/-- Decode each element; the first stands at `index`. -/
def decodeElements {α : Type} (decode : Json → Except Mismatch α) :
    (index : Nat) → List Json → Except Mismatch (List α)
  | _, [] => .ok []
  | index, v :: vs => do
    let a ← within (.element index) (decode v)
    let as ← decodeElements decode (index + 1) vs
    .ok (a :: as)

/-- The elements of an array. -/
def toList {α : Type} (decode : Json → Except Mismatch α) : Json → Except Mismatch (List α)
  | .arr vs => decodeElements decode 0 vs
  | v => refuse "array" v

/-- What the members of an object make of `start`, taken in one after the other. -/
def foldMembers {α : Type} (take : α → String → Json → Except Mismatch α) (start : α) :
    Json → Except Mismatch α
  | .obj ms => ms.foldlM (fun a m => take a m.1 m.2) start
  | v => refuse "object" v

end CiteSieve.Json
