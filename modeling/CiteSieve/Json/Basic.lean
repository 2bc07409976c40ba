import CiteSieve.Assoc

/-!
# JSON documents

The values a JSON document can hold. An object keeps its members in order, each key once; a
number is an integer or a decimal.
-/

namespace CiteSieve

/-- A JSON value. -/
inductive Json where
  | null
  | bool (b : Bool)
  | int (i : Int)
  /-- The number `mantissa * 10 ^ exponent`, written with a point or an exponent. -/
  | decimal (mantissa exponent : Int)
  | str (s : String)
  | arr (elements : List Json)
  | obj (members : List (String × Json))
  deriving BEq, Repr, Inhabited

namespace Json

/-- What a value is called in messages. -/
def kind : Json → String
  | .null => "null"
  | .bool _ => "bool"
  | .int _ => "int"
  | .decimal _ _ => "float"
  | .str _ => "str"
  | .arr _ => "array"
  | .obj _ => "object"

end Json

end CiteSieve
