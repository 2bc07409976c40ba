import CiteSieve.Proofs.Bibtex.Local
import CiteSieve.Proofs.Bibtex.Quoted

/-!
# Lines of entries with values in quotes

The braces that the values of an entry leave open do no harm if they are never closed: then the
entry is taken to end before the next header. If they are closed in a later entry, that entry and
those between are taken to be part of the first.

* `closeChunk_lines`: an entry ends with the first one at whose end no brace is open.
* `recordsIn_of_holds`, `recordsIn_of_swallow`: what is read of the first line.
* `parse_quotedText_iff`: lines of entries are read as they were written exactly if no entry
  swallows a later one (`QuotesHold`).
-/

namespace CiteSieve.Bibtex

/-! ## Where an entry ends -/

/-- The records behind the first one at whose end no brace is open, if `h` are open before. -/
def restBehind : (h : Nat) → List Record → Option (List Record)
  | _, [] => none
  | h, r :: rs =>
    if heightBehind h r.fields = 0 then some rs else restBehind (heightBehind h r.fields) rs

theorem restBehind_spec : ∀ {h : Nat} {rs rest : List Record}, restBehind h rs = some rest →
    rest <:+ rs ∧ rest.length < rs.length
  | _, [], _, hrest => by cases hrest
  | h, r :: rs, rest, hrest => by
    rw [restBehind] at hrest
    rw [List.length_cons]
    split at hrest
    · cases hrest
      exact ⟨List.suffix_cons r rs, Nat.lt_succ_self _⟩
    · obtain ⟨hsuffix, hlength⟩ := restBehind_spec hrest
      exact ⟨hsuffix.trans (List.suffix_cons r rs), Nat.lt_succ_of_lt hlength⟩

/-- What is behind the brace that ends the search. -/
theorem map_snd_behind (cs : List Char) (found : Option (List Char × List Char)) :
    (found.map (behind cs)).map Prod.snd = found.map Prod.snd := by
  cases found <;> rfl

/-- A search that is in an entry goes on into the next one. -/
theorem closeChunk_nextEntry (h : Nat) {r : Record} (hr : Quotable r) (tail : List Char) :
    (closeChunk (h + 1) true ('\x7d' :: '\n' :: quotedChars r tail)).map Prod.snd =
      (closeChunk (h + 1) true (quotedBodyChars r.fields ++ '\x7d' :: tail)).map Prod.snd := by
  have hnext := crosses_nextHeader h hr (quotedBodyChars r.fields ++ '\x7d' :: tail)
  simp only [List.cons_append, List.append_assoc, List.nil_append] at hnext
  rw [quotedChars, hnext, map_snd_behind]

section

variable {tail : List Char}

/-- **The brace that closes an entry** is that of the first entry at whose end no brace is open. -/
theorem closeChunk_lines (htail : ∀ c ∈ tail, c = '\n') : ∀ {rs : List Record} {r : Record}
    (h : Nat), Quotable r → (∀ r ∈ rs, Quotable r) →
      (closeChunk h (isQuotedAt h) (quotedBodyChars r.fields ++ '\x7d' :: moreChars tail rs)).map
        Prod.snd = (restBehind h (r :: rs)).map (moreChars tail)
  | rs, r, h, hr, hrs => by
    rw [crosses_quotedBody h hr.fields, map_snd_behind, restBehind]
    cases heightBehind h r.fields with
    | zero =>
      rw [if_pos rfl]
      exact congrArg (Option.map Prod.snd) (closeChunk_close _)
    | succ n =>
      rw [if_neg (Nat.succ_ne_zero n)]
      cases rs with
      | nil =>
        have hblank : Crosses n true tail n true := crosses_all n true fun c hc => by
          rw [htail c hc]
          decide
        exact congrArg (Option.map Prod.snd) ((crosses_close n true).cons hblank).eq_none
      | cons s rs =>
        obtain ⟨hs, hrs⟩ := List.forall_mem_cons.mp hrs
        exact (closeChunk_nextEntry n hs _).trans (closeChunk_lines htail (n + 1) hs hrs)

/-! ## Bodies -/

/-- An entry that leaves no brace open ends at its own brace. -/
theorem bodyOf_of_closed {r : Record} (hr : Quotable r) (h : heightBehind 0 r.fields = 0)
    (after : List Char) :
    bodyOf (quotedBodyChars r.fields ++ '\x7d' :: after) = (quotedBodyChars r.fields, after) := by
  have hcross := crosses_quotedBody 0 hr.fields ('\x7d' :: after)
  rw [h] at hcross
  have hclose : closeChunk 0 false (quotedBodyChars r.fields ++ '\x7d' :: after) =
      some (quotedBodyChars r.fields ++ [], after) :=
    hcross.trans (congrArg (Option.map _) (closeChunk_close after))
  rw [bodyOf, hclose, List.append_nil]
  rfl

/-- An entry whose braces are closed in a later one goes on up to that one's brace. -/
theorem bodyOf_of_swallow (htail : ∀ c ∈ tail, c = '\n') {r : Record} {rs rest : List Record}
    (hr : Quotable r) (hrs : ∀ r ∈ rs, Quotable r) (h : restBehind 0 (r :: rs) = some rest) :
    (bodyOf (quotedBodyChars r.fields ++ '\x7d' :: moreChars tail rs)).2 =
      moreChars tail rest := by
  have hclose := closeChunk_lines htail 0 hr hrs
  rw [h] at hclose
  obtain ⟨found, hfound, hrest⟩ := Option.map_eq_some_iff.mp hclose
  have hfound : closeChunk 0 false (quotedBodyChars r.fields ++ '\x7d' :: moreChars tail rs) =
      some found := hfound
  rw [bodyOf, hfound]
  exact hrest

/-- An entry whose braces are never closed ends before the next header. -/
theorem bodyOf_of_unclosed (htail : ∀ c ∈ tail, c = '\n') {r : Record} {rs : List Record}
    (hr : Quotable r) (hrs : ∀ r ∈ rs, Quotable r) (h : restBehind 0 (r :: rs) = none) :
    ∃ rest, (∀ c ∈ rest, c = '\x7d' ∨ c = '\n') ∧
      bodyOf (quotedBodyChars r.fields ++ '\x7d' :: moreChars tail rs) =
        (quotedBodyChars r.fields ++ rest, if rs = [] then [] else linesChars tail rs) := by
  have hclose := closeChunk_lines htail 0 hr hrs
  rw [h] at hclose
  have hnone : closeChunk 0 false (quotedBodyChars r.fields ++ '\x7d' :: moreChars tail rs) =
      none := Option.map_eq_none_iff.mp hclose
  have hbody := not_mem_quotedBodyChars hr.fields
  rw [bodyOf, hnone, Option.getD_none]
  cases rs with
  | nil =>
    have hmem : '@' ∉ quotedBodyChars r.fields ++ '\x7d' :: tail := by
      rw [List.mem_append, List.mem_cons, not_or, not_or]
      exact ⟨hbody, by decide, fun hm => absurd (htail '@' hm) (by decide)⟩
    exact ⟨'\x7d' :: tail, List.forall_mem_cons.mpr ⟨.inl rfl, fun c hc => .inr (htail c hc)⟩,
      untilHeader_of_not_mem hmem⟩
  | cons s rs =>
    have hmem : '@' ∉ quotedBodyChars r.fields ++ ['\x7d', '\n'] := by
      rw [List.mem_append, not_or]
      exact ⟨hbody, by decide⟩
    have hheader := header?_quotedChars (hrs s List.mem_cons_self) (moreChars tail rs)
    have huntil := untilHeader_append_of (Option.isSome_of_eq_some hheader)
      (quotedBodyChars r.fields ++ ['\x7d', '\n'])
    rw [untilHeader_of_not_mem hmem, List.append_assoc] at huntil
    exact ⟨['\x7d', '\n'], by decide, huntil⟩

/-! ## Records -/

/-- The records that a text holds. -/
def recordsIn (cs : List Char) : List Record :=
  (scanFrom 0 cs).records

theorem records_scanFrom (start : Nat) (cs : List Char) :
    (scanFrom start cs).records = recordsIn cs := by
  have hshift := scanFrom_add start 0 cs
  rw [Nat.zero_add] at hshift
  rw [hshift, Scan.records_shift]
  rfl

theorem recordsIn_skip {c : Char} (hc : c ≠ '@') (cs : List Char) :
    recordsIn (c :: cs) = recordsIn cs := by
  rw [recordsIn, scanFrom_skip hc, records_scanFrom]

theorem recordsIn_of_lineEnds : ∀ {cs : List Char}, (∀ c ∈ cs, c = '\n') → recordsIn cs = []
  | [], _ => by
    rw [recordsIn, scanFrom]
    rfl
  | c :: cs, h => by
    obtain ⟨rfl, hcs⟩ := List.forall_mem_cons.mp h
    rw [recordsIn_skip (by decide), recordsIn_of_lineEnds hcs]

theorem recordsIn_moreChars (tail : List Char) (rs : List Record) :
    recordsIn (moreChars tail rs) = recordsIn (linesChars tail rs) := by
  cases rs with
  | nil => rfl
  | cons r rs => exact recordsIn_skip (by decide) _

theorem recordsIn_quotedChars {r : Record} (hr : Quotable r) (after : List Char) :
    recordsIn (quotedChars r after) =
      (Header.mk r.entryType.toList r.citeKey.toList).record
        (bodyOf (quotedBodyChars r.fields ++ '\x7d' :: after)).1 ::
      recordsIn (bodyOf (quotedBodyChars r.fields ++ '\x7d' :: after)).2 := by
  have hheader := header?_quotedChars hr after
  unfold quotedChars at hheader ⊢
  rw [recordsIn, scanFrom_of_header hheader, Scan.records, List.map_cons]
  exact congrArg (List.cons _) (records_scanFrom _ _)

/-- The first entry ends at its own brace, or its braces are never closed. -/
def HoldsBefore (r : Record) (rs : List Record) : Prop :=
  heightBehind 0 r.fields = 0 ∨ restBehind (heightBehind 0 r.fields) rs = none

instance (r : Record) (rs : List Record) : Decidable (HoldsBefore r rs) :=
  inferInstanceAs (Decidable (_ ∨ _))

/-- **No entry swallows a later one.** -/
def QuotesHold : List Record → Prop
  | [] => True
  | r :: rs => HoldsBefore r rs ∧ QuotesHold rs

/-- An entry that holds is read as it was written, and reading goes on with the next one. -/
theorem recordsIn_of_holds (htail : ∀ c ∈ tail, c = '\n') {r : Record} {rs : List Record}
    (hr : Quotable r) (hrs : ∀ r ∈ rs, Quotable r) (h : HoldsBefore r rs) :
    recordsIn (linesChars tail (r :: rs)) = r :: recordsIn (linesChars tail rs) := by
  rw [linesChars, recordsIn_quotedChars hr]
  by_cases hclosed : heightBehind 0 r.fields = 0
  · have hrecord := record_quotedBody hr (List.forall_mem_nil (fun c => c = '\x7d' ∨ c = '\n'))
    rw [List.append_nil] at hrecord
    rw [bodyOf_of_closed hr hclosed, hrecord, recordsIn_moreChars]
  · have hnone : restBehind 0 (r :: rs) = none := by
      rw [restBehind, if_neg hclosed]
      exact h.resolve_left hclosed
    obtain ⟨rest, hrest, hbody⟩ := bodyOf_of_unclosed htail hr hrs hnone
    rw [hbody, record_quotedBody hr hrest]
    cases rs with
    | nil =>
      rw [if_pos rfl, linesChars, recordsIn_of_lineEnds htail,
        recordsIn_of_lineEnds (List.forall_mem_nil _)]
    | cons s rs => rw [if_neg (List.cons_ne_nil s rs)]

/-- An entry that swallows others takes their records. -/
theorem recordsIn_of_swallow (htail : ∀ c ∈ tail, c = '\n') {r : Record} {rs : List Record}
    (hr : Quotable r) (hrs : ∀ r ∈ rs, Quotable r) (h : ¬ HoldsBefore r rs) :
    ∃ r' rest, rest <:+ rs ∧ rest.length < rs.length ∧
      recordsIn (linesChars tail (r :: rs)) = r' :: recordsIn (linesChars tail rest) := by
  obtain ⟨hopen, hclosed⟩ := not_or.mp h
  obtain ⟨rest, hrest⟩ := Option.ne_none_iff_exists'.mp hclosed
  have hbehind : restBehind 0 (r :: rs) = some rest := by
    rw [restBehind, if_neg hopen, hrest]
  obtain ⟨hsuffix, hlength⟩ := restBehind_spec hrest
  have hrecords := recordsIn_quotedChars hr (moreChars tail rs)
  rw [bodyOf_of_swallow htail hr hrs hbehind, recordsIn_moreChars] at hrecords
  exact ⟨_, rest, hsuffix, hlength, hrecords⟩

/-- There are never more records than lines. -/
theorem length_recordsIn_le (htail : ∀ c ∈ tail, c = '\n') : ∀ {rs : List Record},
    (∀ r ∈ rs, Quotable r) → (recordsIn (linesChars tail rs)).length ≤ rs.length
  | [], _ => by simp [linesChars, recordsIn_of_lineEnds htail]
  | r :: rs, h => by
    obtain ⟨hr, hrs⟩ := List.forall_mem_cons.mp h
    by_cases hholds : HoldsBefore r rs
    · rw [recordsIn_of_holds htail hr hrs hholds, List.length_cons, List.length_cons]
      exact Nat.succ_le_succ (length_recordsIn_le htail hrs)
    · obtain ⟨r', rest, hsuffix, hlength, hrecords⟩ := recordsIn_of_swallow htail hr hrs hholds
      have ih := length_recordsIn_le htail fun r hr => hrs r (hsuffix.subset hr)
      rw [hrecords, List.length_cons, List.length_cons]
      omega
termination_by rs => rs.length

theorem recordsIn_linesChars (htail : ∀ c ∈ tail, c = '\n') : ∀ {rs : List Record},
    (∀ r ∈ rs, Quotable r) → QuotesHold rs → recordsIn (linesChars tail rs) = rs
  | [], _, _ => recordsIn_of_lineEnds htail
  | r :: rs, h, hhold => by
    obtain ⟨hr, hrs⟩ := List.forall_mem_cons.mp h
    rw [recordsIn_of_holds htail hr hrs hhold.1, recordsIn_linesChars htail hrs hhold.2]

/-- If there are as many records as lines, no line is swallowed. -/
theorem quotesHold_of_length (htail : ∀ c ∈ tail, c = '\n') : ∀ {rs : List Record},
    (∀ r ∈ rs, Quotable r) → (recordsIn (linesChars tail rs)).length = rs.length → QuotesHold rs
  | [], _, _ => trivial
  | r :: rs, h, hlength => by
    obtain ⟨hr, hrs⟩ := List.forall_mem_cons.mp h
    by_cases hholds : HoldsBefore r rs
    · rw [recordsIn_of_holds htail hr hrs hholds, List.length_cons, List.length_cons] at hlength
      exact ⟨hholds, quotesHold_of_length htail hrs (Nat.succ.inj hlength)⟩
    · -- The line takes at least one other with it, and then there are too few records.
      obtain ⟨r', rest, hsuffix, hshort, hrecords⟩ := recordsIn_of_swallow htail hr hrs hholds
      have hle := length_recordsIn_le htail fun r hr => hrs r (hsuffix.subset hr)
      rw [hrecords, List.length_cons, List.length_cons] at hlength
      omega

end

/-! ## Texts -/

/-- Entries that leave no brace open hold. -/
theorem quotesHold_of_closed : ∀ {rs : List Record}, (∀ r ∈ rs, heightBehind 0 r.fields = 0) →
    QuotesHold rs
  | [], _ => trivial
  | _ :: _, h =>
    ⟨.inl (h _ List.mem_cons_self),
      quotesHold_of_closed fun r hr => h r (List.mem_cons_of_mem _ hr)⟩

/-- **A quoted value hides its braces exactly if no later entry closes them.** Lines of entries with
their values in quotes are read as they were written, one record for each line with its fields and
values, if every entry leaves no brace open or none that is ever closed, and otherwise not. In
particular they are if no entry leaves a brace open, and if there is only one. -/
theorem parse_quotedText_iff {rs : List Record} (hne : rs ≠ []) (h : ∀ r ∈ rs, Quotable r)
    {lineEnds : String} (hends : ∀ c ∈ lineEnds.toList, c = '\n') :
    (parse (quotedText rs ++ lineEnds) = .ok rs ↔ QuotesHold rs) ∧
      ((∀ r ∈ rs, heightBehind 0 r.fields = 0) ∨ rs.length = 1 →
        parse (quotedText rs ++ lineEnds) = .ok rs) := by
  have hscan : (scan (quotedText rs ++ lineEnds)).records =
      recordsIn (linesChars lineEnds.toList rs) := by
    rw [scan, String.toList_append, toList_quotedText]
    rfl
  have hiff : parse (quotedText rs ++ lineEnds) = .ok rs ↔ QuotesHold rs := by
    constructor
    · intro hparse
      have hrecords := scan_records_of_parse hparse
      rw [hscan] at hrecords
      exact quotesHold_of_length hends h (congrArg List.length hrecords)
    · intro hhold
      exact parse_eq_ok (hscan.trans (recordsIn_linesChars hends h hhold)) hne
  refine ⟨hiff, fun hcase => hiff.mpr ?_⟩
  rcases hcase with hclosed | hone
  · exact quotesHold_of_closed hclosed
  · obtain ⟨r, rfl⟩ := List.length_eq_one_iff.mp hone
    exact ⟨.inr rfl, trivial⟩

/-- An entry with a closing brace and one that is never closed, and an entry with a group. -/
def looseRecords : List Record :=
  [⟨"misc", "k@1", [("title", "a \x7d b"), ("note", "\x7b c")]⟩,
    ⟨"book", "m", [("title", "\x7bd\x7d")]⟩]

theorem quotable_looseRecords : ∀ r ∈ looseRecords, Quotable r := by
  have htitle : QuotableField "title" "a \x7d b" := ⟨by decide, by decide, rfl, by decide⟩
  have hnote : QuotableField "note" "\x7b c" := ⟨by decide, by decide, rfl, by decide⟩
  have hgroup : QuotableField "title" "\x7bd\x7d" := ⟨by decide, by decide, rfl, by decide⟩
  refine List.forall_mem_cons.mpr ⟨?_, List.forall_mem_singleton.mpr ?_⟩
  · exact ⟨by decide, by decide, by decide, by decide, ⟨by decide, by decide⟩, by decide,
      List.forall_mem_cons.mpr ⟨htitle, List.forall_mem_singleton.mpr hnote⟩⟩
  · exact ⟨by decide, by decide, by decide, by decide, ⟨by decide, by decide⟩, by decide,
      List.forall_mem_singleton.mpr hgroup⟩

theorem parse_looseRecords :
    (∀ r ∈ looseRecords, Quotable r) ∧ QuotesHold looseRecords ∧
      parse (quotedText looseRecords ++ "\n") = .ok looseRecords := by
  have hhold : QuotesHold looseRecords := ⟨.inr (by decide), .inl (by decide), trivial⟩
  exact ⟨quotable_looseRecords, hhold,
    (parse_quotedText_iff (List.cons_ne_nil _ _) quotable_looseRecords (by decide)).1.mpr hhold⟩

/-- An opening brace in one entry and a closing one in the next. -/
def swallowedText : String :=
  "@a\x7bk, x = \"\x7b\"\x7d\n@b\x7bm, y = \"\x7d\"\x7d"

/-- The second entry is swallowed by the first, and its field is taken for one of the first. -/
theorem swallowedText_parsed :
    swallowedText = quotedText [⟨"a", "k", [("x", "\x7b")]⟩, ⟨"b", "m", [("y", "\x7d")]⟩] ∧
      (∀ r ∈ [Record.mk "a" "k" [("x", "\x7b")], ⟨"b", "m", [("y", "\x7d")]⟩], Quotable r) ∧
      parse swallowedText = .ok [⟨"a", "k", [("x", "\x7b"), ("y", "\x7d")]⟩] := by
  have hopen : QuotableField "x" "\x7b" := ⟨by decide, by decide, rfl, by decide⟩
  have hclose : QuotableField "y" "\x7d" := ⟨by decide, by decide, rfl, by decide⟩
  refine ⟨by decide, List.forall_mem_cons.mpr ⟨?_, List.forall_mem_singleton.mpr ?_⟩,
    parse_eq_ok (by decide +kernel) (List.cons_ne_nil _ _)⟩
  · exact ⟨by decide, by decide, by decide, by decide, ⟨by decide, by decide⟩, by decide,
      List.forall_mem_singleton.mpr hopen⟩
  · exact ⟨by decide, by decide, by decide, by decide, ⟨by decide, by decide⟩, by decide,
      List.forall_mem_singleton.mpr hclose⟩

end CiteSieve.Bibtex
