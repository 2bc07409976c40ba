import CiteSieve.Text.Identifier.Table

/-!
# Identifiers

A name that begins with a letter or an underscore and goes on with letters, marks, digits and
connectors of any script.
-/

namespace CiteSieve.Text

/-- May begin an identifier. -/
def isIdentifierStart (c : Char) : Bool :=
  if c.toNat < 0x80 then c.isAlpha || c == '_' else identifierStartRanges.has c.toNat

/-- May stand in an identifier after its first character. -/
def isIdentifierRest (c : Char) : Bool :=
  if c.toNat < 0x80 then c.isAlphanum || c == '_' else identifierRestRanges.has c.toNat

/-- The text is an identifier. -/
def isIdentifier : List Char → Bool
  | [] => false
  | c :: cs => isIdentifierStart c && cs.all isIdentifierRest

end CiteSieve.Text
