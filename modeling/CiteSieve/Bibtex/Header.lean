import CiteSieve.Text.Blank
import CiteSieve.Text.Word

/-!
# Entry headers

An entry begins with `@type{key,`: a type of word characters, an opening brace and a key that
holds no comma and no brace. Blanks may stand after the type and around the key; a key of blanks
alone counts as empty.

* `header?` reads a header at the start of a text; `length_header?`: it takes something.
-/

namespace CiteSieve.Bibtex

/-- May stand in a key. -/
def isKeyChar (c : Char) : Bool :=
  c != ',' && c != '\x7b' && c != '\x7d'

/-- What the header of an entry says. -/
structure Header where
  entryType : List Char
  citeKey : List Char
  deriving DecidableEq, Repr

/-- The header at the start of a text, and the text after its comma. -/
def header? : List Char → Option (Header × List Char)
  | '@' :: cs =>
    let type := cs.takeWhile Text.isWord
    match (cs.dropWhile Text.isWord).dropWhile Text.isBlank with
    | '\x7b' :: r =>
      let key := r.takeWhile isKeyChar
      match r.dropWhile isKeyChar with
      | ',' :: rest =>
        if type = [] ∨ key = [] then none else some (⟨type, Text.trimChars key⟩, rest)
      | _ => none
    | _ => none
  | _ => none

theorem length_dropWhile_le (p : Char → Bool) (cs : List Char) :
    (cs.dropWhile p).length ≤ cs.length :=
  (List.dropWhile_sublist p).length_le

theorem length_header? {cs rest : List Char} {h : Header} (e : header? cs = some (h, rest)) :
    rest.length < cs.length := by
  unfold header? at e
  split at e
  · rename_i cs
    dsimp only at e
    split at e
    · rename_i r hr
      split at e
      · rename_i rest' hrest
        split at e
        · simp at e
        · simp only [Option.some.injEq, Prod.mk.injEq] at e
          obtain ⟨-, rfl⟩ := e
          have h₁ := length_dropWhile_le isKeyChar r
          have h₂ := length_dropWhile_le Text.isBlank (cs.dropWhile Text.isWord)
          have h₃ := length_dropWhile_le Text.isWord cs
          rw [hrest, List.length_cons] at h₁
          rw [hr, List.length_cons] at h₂
          rw [List.length_cons]
          omega
      · simp at e
    · simp at e
  · simp at e

end CiteSieve.Bibtex
