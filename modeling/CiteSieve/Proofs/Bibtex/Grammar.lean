import CiteSieve.Bibtex.Fields
import CiteSieve.Proofs.Text.Trimmed
import CiteSieve.Record

/-!
# Records that can be written as entries

The grammar of the values that survive being put between braces, and the records all of whose
parts an entry can hold. Nothing here refers to a reader or to the printer.

* `InQuotes`: what a value in quotes may hold: characters other than quotes, and a backslash with
  any character after it.
* `InBraces`: what a braced value may hold: characters other than braces, a backslash with any
  character after it, and groups in braces that hold no further braces.
* `ValueText`: the same, with every backslash in a group followed by the character that it hides.
* `Writable`: a type and field keys of word characters, a key that fits into a header, and values
  that are `ValueText`.
-/

namespace CiteSieve.Bibtex

/-- The inside of a value in quotes. -/
inductive InQuotes : List Char → Prop
  | nil : InQuotes []
  | plain {c : Char} {cs : List Char} (hq : c ≠ '"') (hb : c ≠ '\\') (hcs : InQuotes cs) :
      InQuotes (c :: cs)
  | escaped {c : Char} {cs : List Char} (hcs : InQuotes cs) : InQuotes ('\\' :: c :: cs)

/-- The inside of a braced value. -/
inductive InBraces : List Char → Prop
  | nil : InBraces []
  | plain {c : Char} {cs : List Char} (hc : isPlain c = true) (hb : c ≠ '\\')
      (hcs : InBraces cs) : InBraces (c :: cs)
  | escaped {c : Char} {cs : List Char} (hcs : InBraces cs) : InBraces ('\\' :: c :: cs)
  | group {g cs : List Char} (hg : ∀ c ∈ g, isPlain c = true) (hcs : InBraces cs) :
      InBraces ('\x7b' :: (g ++ '\x7d' :: cs))

/-- The inside of a group: no braces, and every backslash with the character that it hides. -/
inductive GroupText : List Char → Prop
  | nil : GroupText []
  | plain {c : Char} {cs : List Char} (hc : isPlain c = true) (hb : c ≠ '\\')
      (hcs : GroupText cs) : GroupText (c :: cs)
  | escaped {c : Char} {cs : List Char} (hc : isPlain c = true) (hcs : GroupText cs) :
      GroupText ('\\' :: c :: cs)

/-- The inside of a braced value that holds together whatever stands around it. -/
inductive ValueText : List Char → Prop
  | nil : ValueText []
  | plain {c : Char} {cs : List Char} (hc : isPlain c = true) (hb : c ≠ '\\')
      (hcs : ValueText cs) : ValueText (c :: cs)
  | escaped {c : Char} {cs : List Char} (hcs : ValueText cs) : ValueText ('\\' :: c :: cs)
  | group {g cs : List Char} (hg : GroupText g) (hcs : ValueText cs) :
      ValueText ('\x7b' :: (g ++ '\x7d' :: cs))

/-- A field that can be written. -/
structure WritableField (key value : String) : Prop where
  key_ne : key.toList ≠ []
  key_word : ∀ c ∈ key.toList, Text.isWord c = true
  key_lower : Text.lower key = key
  value : ValueText value.toList

/-- **A record that can be written.** -/
structure Writable (r : Record) : Prop where
  type_ne : r.entryType.toList ≠ []
  type_word : ∀ c ∈ r.entryType.toList, Text.isWord c = true
  key_ne : r.citeKey.toList ≠ []
  key_char : ∀ c ∈ r.citeKey.toList, isKeyChar c = true
  key_trimmed : Text.IsTrimmed r.citeKey.toList
  nodup : r.fields.keys.Nodup
  fields : ∀ f ∈ r.fields, WritableField f.1 f.2

end CiteSieve.Bibtex
