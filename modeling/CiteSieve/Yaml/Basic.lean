import CiteSieve.Assoc

/-!
# YAML values

The values a settings file can hold, and what a plain scalar stands for: nothing, a truth value,
an integer in one of several notations, a decimal number, or its own text.

* `Yaml.ofPlain`: the value of a plain scalar.
-/

namespace CiteSieve

/-- A YAML value; the keys of a mapping are texts. -/
inductive Yaml where
  | null
  | bool (b : Bool)
  | int (i : Int)
  /-- The number `mantissa * 10 ^ exponent`. -/
  | decimal (mantissa exponent : Int)
  /-- An infinite number, or none at all, by its spelling. -/
  | special (spelling : String)
  | str (s : String)
  | list (items : List Yaml)
  | map (members : List (String × Yaml))
  deriving BEq, Repr, Inhabited

namespace Yaml

/-- A value counts as false if it is nothing, false, zero or empty. -/
def isTruthy : Yaml → Bool
  | .null => false
  | .bool b => b
  | .int i => i ≠ 0
  | .decimal mantissa _ => mantissa ≠ 0
  | .special _ => true
  | .str s => s ≠ ""
  | .list items => !items.isEmpty
  | .map members => !members.isEmpty

/-- What a value is called in messages. -/
def kind : Yaml → String
  | .null => "NoneType"
  | .bool _ => "bool"
  | .int _ => "int"
  | .decimal _ _ => "float"
  | .special _ => "float"
  | .str _ => "str"
  | .list _ => "list"
  | .map _ => "dict"

/-! ## Plain scalars -/

/-- The spellings of nothing. -/
def nullWords : List String :=
  ["", "~", "null", "Null", "NULL"]

/-- The spellings of the truth values. -/
def boolWords : List (String × Bool) :=
  (["yes", "Yes", "YES", "true", "True", "TRUE", "on", "On", "ON"].map (·, true)) ++
    (["no", "No", "NO", "false", "False", "FALSE", "off", "Off", "OFF"].map (·, false))

/-- The value of a digit in notations up to base sixteen. -/
def digitValue (c : Char) : Nat :=
  if '0' ≤ c ∧ c ≤ '9' then c.toNat - '0'.toNat
  else if 'a' ≤ c ∧ c ≤ 'f' then c.toNat - 'a'.toNat + 10
  else if 'A' ≤ c ∧ c ≤ 'F' then c.toNat - 'A'.toNat + 10
  else 16

/-- The number that digits write in a base; underscores separate digits. There must be a digit. -/
def digits? (base : Nat) (cs : List Char) : Option Nat :=
  let ds := (cs.filter (· ≠ '_')).map digitValue
  if ds ≠ [] ∧ ds.all (· < base) then some (ds.foldl (fun n d => n * base + d) 0) else none

/-- The number that parts separated by colons write in base sixty. -/
def sixties? (parts : List (List Char)) : Option Nat :=
  match parts with
  | first :: p :: ps => do
    let n ← digits? 10 first
    (p :: ps).foldlM
      (fun n p => do
        let d ← digits? 10 p
        if p.contains '_' ∨ 2 < p.length ∨ 60 ≤ d then none else some (n * 60 + d)) n
  | _ => none

/-- The number that an unsigned scalar writes. -/
def natural? (cs : List Char) : Option Nat :=
  match cs with
  | ['0'] => some 0
  | '0' :: 'b' :: ds => digits? 2 ds
  | '0' :: 'x' :: ds => digits? 16 ds
  | '0' :: ds => digits? 8 ds
  | '_' :: _ => none
  | cs => if cs.contains ':' then sixties? (cs.splitOn ':') else digits? 10 cs

/-- The integer that a scalar writes. -/
def integer? (cs : List Char) : Option Int :=
  match cs with
  | '-' :: ds => (natural? ds).map fun n => -(n : Int)
  | '+' :: ds => (natural? ds).map fun n => (n : Int)
  | ds => (natural? ds).map fun n => (n : Int)

/-- A number of digits and underscores, which must not begin with an underscore. -/
def isDigits (cs : List Char) : Bool :=
  cs.all (fun c => c.isDigit || c == '_') && cs.head? != some '_'

/-- The value of decimal digits, underscores left out. -/
def digitsValue (cs : List Char) : Nat :=
  (cs.filter Char.isDigit).foldl (fun n c => n * 10 + (c.toNat - '0'.toNat)) 0

/-- The exponent after the letter for it, which must have a sign. -/
def exponent? : List Char → Option Int
  | [] => some 0
  | e :: sign :: ds =>
    if (e = 'e' ∨ e = 'E') ∧ ds ≠ [] ∧ ds.all Char.isDigit then
      if sign = '+' then some (digitsValue ds)
      else if sign = '-' then some (-(digitsValue ds : Int))
      else none
    else none
  | _ => none

/-- The decimal number that an unsigned scalar with a point writes; digits must stand before the
point or, if there is no sign, after it. -/
def unsigned? (signed : Bool) (cs : List Char) : Option (Nat × Int) := do
  let whole := cs.takeWhile (· ≠ '.')
  let after ← (cs.dropWhile (· ≠ '.')).tail?
  let part := after.takeWhile fun c => c.isDigit || c == '_'
  let exponent ← exponent? (after.drop part.length)
  if isDigits whole && (!whole.isEmpty || (!signed && isDigits part && !part.isEmpty)) then
    some (digitsValue (whole ++ part), exponent - (part.filter Char.isDigit).length)
  else none

/-- The decimal number that a scalar writes. -/
def decimal? (cs : List Char) : Option (Int × Int) :=
  match cs with
  | '-' :: ds => (unsigned? true ds).map fun (m, e) => (-(m : Int), e)
  | '+' :: ds => (unsigned? true ds).map fun (m, e) => ((m : Int), e)
  | ds => (unsigned? false ds).map fun (m, e) => ((m : Int), e)

/-- The spellings of the numbers that are not finite. -/
def specialWords : List String :=
  [".inf", ".Inf", ".INF", "+.inf", "+.Inf", "+.INF", "-.inf", "-.Inf", "-.INF", ".nan", ".NaN",
    ".NAN"]

/-- The value of a plain scalar. -/
def ofPlain (cs : List Char) : Yaml :=
  let s := String.ofList cs
  if nullWords.contains s then .null
  else if specialWords.contains s then .special s
  else
    match boolWords.lookup s, integer? cs, decimal? cs with
    | some b, _, _ => .bool b
    | _, some i, _ => .int i
    | _, _, some (m, e) => .decimal m e
    | _, _, _ => .str s

end Yaml

end CiteSieve
