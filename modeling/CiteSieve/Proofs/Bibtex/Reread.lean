import CiteSieve.Proofs.Bibtex.Found
import CiteSieve.Proofs.Bibtex.RoundTrip

/-!
# Exporting what was found

The records of a text are exported and found again, provided that braces can hold them: what was
quoted may hold braces that a braced value cannot hold, a key may have been blank, and a field key
may have grown a mark in lower case. Of a text without quotes and backslashes nothing is asked for
the sake of its values.

* `writable_of_found`: what a record that was found lacks to be written.
* `parse_formatAll_of_parse`: the export of what was found is read as it was.
* `looseBrace_not_reread`: a quoted value with a closing brace, which is cut off.
-/

namespace CiteSieve.Bibtex

/-- What a record that was found lacks to be written: a key, field keys of word characters and
values that braces can hold. -/
theorem writable_of_found {r : Record} (h : Found r) (hkey : r.citeKey ≠ "")
    (hfields : ∀ f ∈ r.fields, (∀ c ∈ f.1.toList, Text.isWord c = true) ∧ ValueText f.2.toList) :
    Writable r where
  type_ne := h.type_ne
  type_word := h.type_word
  key_ne := by
    rw [Ne, String.toList_eq_nil_iff]
    exact hkey
  key_char := h.key_char
  key_trimmed := h.key_trimmed
  nodup := h.nodup
  fields := fun f hf => {
    key_ne := h.field_key_ne f hf
    key_word := (hfields f hf).1
    key_lower := h.field_key_lower f hf
    value := (hfields f hf).2 }

theorem parse_formatAll {rs : List Record} (h : ∀ r ∈ rs, Writable r) :
    parse (formatAll rs) = .ok rs := by
  cases rs with
  | nil =>
    have hscan : scan (formatAll []) = {} := by
      rw [scan, toList_formatAll, exportChars, scanFrom]
    rw [parse, hscan]
    rfl
  | cons r rs =>
    have hscan : scan (formatAll (r :: rs)) = scanFrom 0 (exportChars (r :: rs)) := by
      rw [scan, toList_formatAll]
    refine parse_eq_ok ?_ (List.cons_ne_nil r rs)
    rw [hscan]
    exact (scanFrom_exportChars h 0).1

/-- **The export of what was found in a text is read as it was**, when no record has a blank key,
field keys are made of word characters, and braces can hold the values or the text has neither
quotes nor backslashes. All else that an export asks of its records holds of whatever was found. -/
theorem parse_formatAll_of_parse {text : String} {rs : List Record} (h : parse text = .ok rs)
    (hkept : ∀ r ∈ rs, r.citeKey ≠ "" ∧ ∀ f ∈ r.fields,
      (∀ c ∈ f.1.toList, Text.isWord c = true) ∧
        (IsUnmarked text.toList ∨ ValueText f.2.toList)) :
    parse (formatAll rs) = .ok rs := by
  refine parse_formatAll fun r hr => ?_
  obtain ⟨hkey, hfields⟩ := hkept r hr
  rw [← scan_records_of_parse h] at hr
  obtain ⟨hfound, hvalues⟩ := found_of_mem_scanFrom 0 text.toList r hr
  refine writable_of_found hfound hkey fun f hf => ?_
  obtain ⟨hword, hmarks | hvalue⟩ := hfields f hf
  · exact ⟨hword, hvalues hmarks f hf⟩
  · exact ⟨hword, hvalue⟩

/-- A quoted value with a group in braces and a bare number, in an entry that is not closed. -/
def mixedText : String :=
  "see @Misc\x7b k , Title = \"a \x7bb\x7d\", YEAR = 1984 "

def mixedRecord : Record :=
  ⟨"Misc", "k", [("title", "a \x7bb\x7d"), ("year", "1984")]⟩

theorem parse_formatAll_mixed :
    parse mixedText = .ok [mixedRecord] ∧ parse (formatAll [mixedRecord]) = .ok [mixedRecord] := by
  have hparse : parse mixedText = .ok [mixedRecord] :=
    parse_eq_ok (by decide +kernel) (List.cons_ne_nil _ _)
  refine ⟨hparse, parse_formatAll_of_parse hparse ?_⟩
  intro r hr
  rw [List.mem_singleton.mp hr]
  refine ⟨by decide, fun f hf => ?_⟩
  rcases List.mem_cons.mp hf with rfl | hf
  · refine ⟨by decide, .inr (.plain rfl (by decide) (.plain rfl (by decide) ?_))⟩
    exact .group (g := ['b']) (.plain rfl (by decide) .nil) .nil
  · rw [List.mem_singleton.mp hf]
    exact ⟨by decide, .inr (.plain rfl (by decide) (.plain rfl (by decide)
      (.plain rfl (by decide) (.plain rfl (by decide) .nil))))⟩

/-- A quoted value that holds a closing brace. -/
def looseBraceText : String :=
  "@misc\x7bk, title = \"a \x7d b\", note = \x7bn\x7d\x7d trailing"

def looseBraceRecord : Record :=
  ⟨"misc", "k", [("title", "a \x7d b"), ("note", "n")]⟩

/-- The value is cut off at the brace, and the field behind it is lost. -/
theorem looseBrace_not_reread :
    parse looseBraceText = .ok [looseBraceRecord] ∧
      parse (formatAll [looseBraceRecord]) = .ok [⟨"misc", "k", [("title", "a ")]⟩] ∧
      parse (formatAll [looseBraceRecord]) ≠ .ok [looseBraceRecord] := by
  have hreread : parse (formatAll [looseBraceRecord]) = .ok [⟨"misc", "k", [("title", "a ")]⟩] :=
    parse_eq_ok (by decide +kernel) (List.cons_ne_nil _ _)
  refine ⟨parse_eq_ok (by decide +kernel) (List.cons_ne_nil _ _), hreread, ?_⟩
  rw [hreread]
  exact fun h => absurd (Except.ok.inj h) (by decide)

end CiteSieve.Bibtex
