import CiteSieve.Proofs.Bibtex.Fields

/-!
# Exported records are found again

Main statement, `parse_append_formatAll`: behind any text, an export is found record by record,
and what the text holds on its own is found as if the export were not there. The text may end
within a header, an entry, a quoted value or an escape; the export neither completes what the
text began nor is swallowed by it.
-/

namespace CiteSieve.Bibtex

/-! ## The scan of an export -/

theorem record_headerOf {r : Record} (h : Writable r) :
    (headerOf r).record (bodyChars r.fields) = r := by
  unfold headerOf Header.record
  rw [parseFields_bodyChars h, String.ofList_toList, String.ofList_toList]

theorem scanFrom_entryChars {r : Record} (h : Writable r) (start : Nat) (tail : List Char) :
    ∃ stop, scanFrom start (entryChars r ++ tail) =
      ⟨⟨start, stop, r⟩ :: (scanFrom stop tail).entries, (scanFrom stop tail).skipped⟩ := by
  have hheader := header?_entryChars h tail
  rw [entryChars, List.cons_append] at hheader ⊢
  rw [scanFrom_of_header hheader]
  simp only [bodyOf_bodyChars h, record_headerOf h]
  exact ⟨_, rfl⟩

theorem scanFrom_skip {c : Char} (hc : c ≠ '@') (start : Nat) (cs : List Char) :
    scanFrom start (c :: cs) = scanFrom (start + 1) cs := by
  rw [scanFrom_of_none (header?_cons_ne hc cs)]
  exact if_neg hc

/-- **The scan of an export** finds its records and skips nothing. -/
theorem scanFrom_exportChars : ∀ {rs : List Record}, (∀ r ∈ rs, Writable r) → ∀ start,
    (scanFrom start (exportChars rs)).records = rs ∧
      (scanFrom start (exportChars rs)).skipped = []
  | [], _, start => by
    rw [exportChars, scanFrom]
    exact ⟨rfl, rfl⟩
  | [r], h, start => by
    obtain ⟨stop, e⟩ := scanFrom_entryChars (h r List.mem_cons_self) start []
    rw [List.append_nil] at e
    rw [exportChars, e, scanFrom]
    exact ⟨rfl, rfl⟩
  | r :: s :: rs, h, start => by
    obtain ⟨stop, e⟩ := scanFrom_entryChars (h r List.mem_cons_self) start
      ('\n' :: '\n' :: exportChars (s :: rs))
    rw [scanFrom_skip (by decide), scanFrom_skip (by decide)] at e
    obtain ⟨hrecords, hskipped⟩ :=
      scanFrom_exportChars (fun r' hr' => h r' (List.mem_cons_of_mem r hr')) (stop + 1 + 1)
    rw [exportChars, e]
    unfold Scan.records at hrecords ⊢
    exact ⟨by rw [List.map_cons, hrecords], hskipped⟩

/-! ## Behind any text -/

/-- The records that a text holds; none if it is blank or holds no entry. -/
def recordsFound (text : String) : List Record :=
  match parse text with
  | .ok rs => rs
  | .error _ => []

theorem recordsFound_eq (text : String) : recordsFound text = (scan text).records := by
  unfold recordsFound parse
  cases (scan text).records with
  | nil =>
    dsimp only
    split
    · rename_i h
      split at h
      · exact (Except.ok.inj h).symm
      · exact absurd h (by simp)
    · rfl
  | cons r rs => rfl

theorem parse_eq_ok {text : String} {rs : List Record} (h : (scan text).records = rs)
    (hne : rs ≠ []) : parse text = .ok rs := by
  unfold parse
  rw [h]
  cases rs with
  | nil => exact absurd rfl hne
  | cons r rs => rfl

theorem scan_records_of_parse {text : String} {rs : List Record} (h : parse text = .ok rs) :
    (scan text).records = rs := by
  rw [← recordsFound_eq, recordsFound, h]

/-- **An export is found behind any text**, and the text as if it ended before the export. -/
theorem parse_append_formatAll (text : String) {rs : List Record} (hne : rs ≠ [])
    (h : ∀ r ∈ rs, Writable r) :
    parse (text ++ formatAll rs) = .ok (recordsFound text ++ rs) ∧
      (scan (text ++ formatAll rs)).skipped = (scan text).skipped := by
  cases rs with
  | nil => exact absurd rfl hne
  | cons r rs =>
    have hscan : scan (text ++ formatAll (r :: rs)) =
        (scan text).append (scanFrom (0 + text.toList.length) (exportChars (r :: rs))) := by
      unfold scan
      rw [String.toList_append, toList_formatAll, scanFrom_append (standsAlone_exportChars h)]
    obtain ⟨hrecords, hskipped⟩ := scanFrom_exportChars h (0 + text.toList.length)
    refine ⟨parse_eq_ok ?_ (by simp), ?_⟩
    · unfold Scan.records at hrecords
      rw [hscan, recordsFound_eq]
      unfold Scan.records Scan.append
      rw [List.map_append, hrecords]
    · rw [hscan]
      unfold Scan.append
      rw [hskipped, List.append_nil]

/-- A text that ends within an escape, in a value of an entry that is not closed. -/
def tornText : String := "a@b @misc\x7bx, t = \"\x7b\\"

/-- A record whose key ends with a backslash and whose value holds a stray brace and quotes. -/
def knottyRecord : Record :=
  ⟨"article", "k\\", [("title", "a\\\x7d\x7bb\\\"c\x7d@\"")]⟩

theorem writable_knottyRecord : Writable knottyRecord where
  type_ne := by decide
  type_word := by decide
  key_ne := by decide
  key_char := by decide
  key_trimmed := ⟨by decide, by decide⟩
  nodup := by decide
  fields := by
    intro f hf
    rw [List.mem_singleton.mp hf]
    exact {
      key_ne := by decide
      key_word := by decide
      key_lower := rfl
      value := .plain rfl (by decide) (.escaped (.group (g := ['b', '\\', '"', 'c'])
        (.plain rfl (by decide) (.escaped rfl (.plain rfl (by decide) .nil)))
        (.plain rfl (by decide) (.plain rfl (by decide) .nil)))) }

theorem parse_torn_append_knotty :
    [knottyRecord, knottyRecord] ≠ [] ∧ (∀ r ∈ [knottyRecord, knottyRecord], Writable r) ∧
      parse (tornText ++ formatAll [knottyRecord, knottyRecord]) =
        .ok (recordsFound tornText ++ [knottyRecord, knottyRecord]) ∧
      (scan (tornText ++ formatAll [knottyRecord, knottyRecord])).skipped =
        (scan tornText).skipped := by
  have h : ∀ r ∈ [knottyRecord, knottyRecord], Writable r := by
    intro r hr
    rw [show r = knottyRecord by simpa using hr]
    exact writable_knottyRecord
  exact ⟨by decide, h, parse_append_formatAll tornText (by decide) h⟩

end CiteSieve.Bibtex
