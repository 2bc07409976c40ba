import CiteSieve.Query.Pasted
import CiteSieve.Query.Printer
import CiteSieve.Proofs.Text.Tidy

/-!
# Queries that can be pasted

The queries whose text says all that their blocks hold. Their terms are tidy. A term with a space
is written in quotes, which hide everything but quotes and backslashes (`IsTerm.quoted`); a term
without one stands as it is, so it holds nothing that is read as a quote, a parenthesis or an
operator (`IsBare`).
-/

namespace CiteSieve.Pasted

/-- A typographic quote. -/
def isCurlyQuote (c : Char) : Bool :=
  "“”‘’".toList.contains c

/-- Neither a straight quote nor a parenthesis nor a backslash. -/
def isPlain (c : Char) : Bool :=
  !isStraightQuote c && c != '(' && c != ')' && c != '\\'

/-- A term that stands for itself: no quote encloses it, and it is no operator in any case. -/
structure IsBare (cs : List Char) : Prop where
  plain : ∀ c ∈ cs, isPlain c = true
  head : ∀ c ∈ cs.head?, isCurlyQuote c = false
  last : ∀ c ∈ cs.getLast?, isCurlyQuote c = false
  ne_and : Text.upperChars cs ≠ "AND".toList
  ne_or : Text.upperChars cs ≠ "OR".toList

instance (cs : List Char) : Decidable (IsBare cs) :=
  decidable_of_iff
    ((∀ c ∈ cs, isPlain c = true) ∧ (∀ c ∈ cs.head?, isCurlyQuote c = false) ∧
      (∀ c ∈ cs.getLast?, isCurlyQuote c = false) ∧ Text.upperChars cs ≠ "AND".toList ∧
      Text.upperChars cs ≠ "OR".toList)
    ⟨fun h => ⟨h.1, h.2.1, h.2.2.1, h.2.2.2.1, h.2.2.2.2⟩,
      fun h => ⟨h.plain, h.head, h.last, h.ne_and, h.ne_or⟩⟩

/-- A term that is read as it is written. -/
structure IsTerm (cs : List Char) : Prop where
  tidy : Text.IsTidy cs
  quoted : ' ' ∈ cs → ∀ c ∈ cs, c ≠ '"' ∧ c ≠ '\\'
  bare : ' ' ∉ cs → IsBare cs

instance (cs : List Char) : Decidable (IsTerm cs) :=
  decidable_of_iff
    (Text.IsTidy cs ∧ (' ' ∈ cs → ∀ c ∈ cs, c ≠ '"' ∧ c ≠ '\\') ∧ (' ' ∉ cs → IsBare cs))
    ⟨fun h => ⟨h.1, h.2.1, h.2.2⟩, fun h => ⟨h.tidy, h.quoted, h.bare⟩⟩

/-- A query that can be pasted: its blocks have terms, and `AND` joins them. -/
structure IsPasteable (q : Query) : Prop where
  consistent : q.isConsistent = true
  blocks_ne_nil : q.blocks ≠ []
  operators : ∀ o ∈ q.operators, o = .and
  terms_ne_nil : ∀ b ∈ q.blocks, b.terms ≠ []
  terms : ∀ b ∈ q.blocks, ∀ t ∈ b.terms, IsTerm t.toList

instance (q : Query) : Decidable (IsPasteable q) :=
  decidable_of_iff
    (q.isConsistent = true ∧ q.blocks ≠ [] ∧ (∀ o ∈ q.operators, o = .and) ∧
      (∀ b ∈ q.blocks, b.terms ≠ []) ∧ ∀ b ∈ q.blocks, ∀ t ∈ b.terms, IsTerm t.toList)
    ⟨fun h => ⟨h.1, h.2.1, h.2.2.1, h.2.2.2.1, h.2.2.2.2⟩,
      fun h => ⟨h.consistent, h.blocks_ne_nil, h.operators, h.terms_ne_nil, h.terms⟩⟩

/-! ## The characters of a query -/

/-- The characters of a term. -/
def termChars (cs : List Char) : List Char :=
  if ' ' ∈ cs then '"' :: (cs ++ ['"']) else cs

/-- An operator between two texts. -/
def separator (word : List Char) : List Char :=
  ' ' :: (word ++ [' '])

/-- The characters of terms joined by `OR`. -/
def termsChars (terms : List (List Char)) : List Char :=
  (separator "OR".toList).intercalate (terms.map termChars)

/-- The characters of a group that is not excluded: several terms stand in parentheses. -/
def enclosedChars (terms : List (List Char)) : List Char :=
  if 1 < terms.length then '(' :: (termsChars terms ++ [')']) else termsChars terms

/-- The characters of a group. -/
def groupChars (exclude : Bool) (terms : List (List Char)) : List Char :=
  if exclude then "NOT ".toList ++ enclosedChars terms else enclosedChars terms

end CiteSieve.Pasted
