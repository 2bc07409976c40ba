import CiteSieve.Proofs.Bibtex.Append
import CiteSieve.Text.Slice

/-!
# What the scan of a text accounts for

A scan looks for the next `@`, and goes on behind it if it begins no header, else behind the chunk
of the entry. Here the scan is followed by offsets in the text (`Scanning`): it always ends, and
every `@` of the text either lies in the chunk of an entry or is skipped.

Results:
* `bodyOf_drop`: the body of an entry and what stands behind its chunk, by offset.
* `isNextHeader_recoverEnd`: an entry that is never closed ends before the next header.
* `Scanning.accounts`: what is said of chunks and skipped offsets holds of every scan.
* `scan_accounts`: the scan of a text ends, and accounts for all of it.
-/

namespace CiteSieve.Bibtex

/-! ## Chunks by offset -/

/-- Where `rest`, which is the end of `text`, begins. -/
def offsetOf (text rest : List Char) : Nat :=
  text.length - rest.length

/-- Where the body that begins at `start` ends. -/
def bodyStop (text : List Char) (start : Nat) : Nat :=
  (chunkEnd? text start).getD (recoverEnd text start)

/-- Where the chunk ends whose body begins at `start`: a closing brace is part of it. -/
def chunkStop (text : List Char) (start : Nat) : Nat :=
  match chunkEnd? text start with
  | some close => close + 1
  | none => recoverEnd text start

/-- The first header from `start` on begins at `stop`; without one, the text ends there. -/
structure IsNextHeader (text : List Char) (start stop : Nat) : Prop where
  start_le : start ≤ stop
  le_length : stop ≤ text.length
  none_before : ∀ i, start ≤ i → i < stop → header? (text.drop i) = none
  isHeader : stop < text.length → (header? (text.drop stop)).isSome = true

/-- The chunk whose body begins at `start` ends at `stop`. -/
structure ChunkEnds (text : List Char) (start stop : Nat) : Prop where
  closed : ∀ close, chunkEnd? text start = some close →
    text[close]? = some '\x7d' ∧ stop = close + 1
  unclosed : chunkEnd? text start = none → IsNextHeader text start stop

theorem drop_offsetOf {text rest : List Char} (h : rest <:+ text) :
    text.drop (offsetOf text rest) = rest :=
  (List.suffix_iff_eq_drop.mp h).symm

theorem sliceChars_add_length {text body rest : List Char} {start : Nat}
    (h : text.drop start = body ++ rest) :
    Text.sliceChars text start (start + body.length) = body := by
  unfold Text.sliceChars
  rw [List.drop_take, Nat.add_sub_cancel_left, h, List.take_left]

theorem drop_add_length {text body rest : List Char} {start : Nat}
    (h : text.drop start = body ++ rest) : text.drop (start + body.length) = rest := by
  rw [← List.drop_drop, h, List.drop_left]

theorem chunkEnd?_eq_some {text : List Char} {start : Nat} {found : List Char × List Char}
    (h : closeChunk 0 false (text.drop start) = some found) :
    chunkEnd? text start = some (start + found.1.length) := by
  rw [chunkEnd?, h]
  rfl

theorem chunkEnd?_eq_none {text : List Char} {start : Nat}
    (h : closeChunk 0 false (text.drop start) = none) : chunkEnd? text start = none := by
  rw [chunkEnd?, h]
  rfl

/-- **The body of an entry and what stands behind its chunk.** -/
theorem bodyOf_drop {text : List Char} {start : Nat} (hstart : start ≤ text.length) :
    bodyOf (text.drop start) =
      (Text.sliceChars text start (bodyStop text start), text.drop (chunkStop text start)) := by
  unfold bodyOf bodyStop chunkStop
  cases h : closeChunk 0 false (text.drop start) with
  | some found =>
    have hsplit : text.drop start = found.1 ++ '\x7d' :: found.2 := eq_of_closeChunk h
    have hbehind : text.drop (start + found.1.length + 1) = found.2 := by
      rw [← List.drop_drop, drop_add_length hsplit, List.drop_succ_cons, List.drop_zero]
    rw [chunkEnd?_eq_some h]
    simp only [Option.getD_some]
    rw [sliceChars_add_length hsplit, hbehind]
  | none =>
    have hsplit := (untilHeader_append (text.drop start)).symm
    rw [chunkEnd?_eq_none h]
    simp only [Option.getD_none, recoverEnd, Nat.min_eq_left hstart]
    rw [sliceChars_add_length hsplit, drop_add_length hsplit]

/-! ## Where a chunk ends -/

theorem header?_of_mem_untilHeader (cs : List Char) :
    (∀ i, i < (untilHeader cs).1.length → header? (cs.drop i) = none) ∧
      ((untilHeader cs).2 ≠ [] → (header? (untilHeader cs).2).isSome = true) := by
  fun_induction untilHeader cs with
  | case1 => exact ⟨fun i hi => absurd hi (Nat.not_lt_zero i), fun hne => absurd rfl hne⟩
  | case2 c cs hheader => exact ⟨fun i hi => absurd hi (Nat.not_lt_zero i), fun _ => hheader⟩
  | case3 c cs hheader body rest hsplit ih =>
    rw [hsplit] at ih
    refine ⟨fun i hi => ?_, ih.2⟩
    cases i with
    | zero => exact Option.not_isSome_iff_eq_none.mp hheader
    | succ i => exact ih.1 i (Nat.lt_of_succ_lt_succ hi)

/-- **An entry that is never closed ends before the next header.** -/
theorem isNextHeader_recoverEnd {text : List Char} {start : Nat} (hstart : start ≤ text.length) :
    IsNextHeader text start (recoverEnd text start) := by
  obtain ⟨hnone, hsome⟩ := header?_of_mem_untilHeader (text.drop start)
  have hsplit := (untilHeader_append (text.drop start)).symm
  have hlen := congrArg List.length hsplit
  rw [List.length_drop, List.length_append] at hlen
  have hstop : recoverEnd text start = start + (untilHeader (text.drop start)).1.length := by
    rw [recoverEnd, Nat.min_eq_left hstart]
  constructor
  · omega
  · omega
  · intro i hi hlt
    have h := hnone (i - start) (by omega)
    rwa [List.drop_drop, Nat.add_sub_cancel' hi] at h
  · intro hlt
    rw [hstop, drop_add_length hsplit]
    refine hsome fun hnil => ?_
    rw [hnil, List.length_nil] at hlen
    omega

theorem IsNextHeader.unique {text : List Char} {start stop stop' : Nat}
    (h : IsNextHeader text start stop) (h' : IsNextHeader text start stop') : stop = stop' := by
  have hle : ∀ {a b : Nat}, IsNextHeader text start a → IsNextHeader text start b → a ≤ b := by
    intro a b ha hb
    refine Nat.le_of_not_lt fun hlt => ?_
    have hsome := hb.isHeader (Nat.lt_of_lt_of_le hlt ha.le_length)
    rw [ha.none_before b hb.start_le hlt] at hsome
    cases hsome
  exact Nat.le_antisymm (hle h h') (hle h' h)

theorem chunkEnd?_spec {text : List Char} {start close : Nat}
    (h : chunkEnd? text start = some close) : start ≤ close ∧ text[close]? = some '\x7d' := by
  obtain ⟨⟨body, rest⟩, hclose, rfl⟩ := Option.map_eq_some_iff.mp h
  have hsplit : text.drop start = body ++ '\x7d' :: rest := eq_of_closeChunk hclose
  refine ⟨Nat.le_add_right _ _, ?_⟩
  rw [← List.head?_drop, drop_add_length hsplit, List.head?_cons]

theorem chunkEnds_chunkStop {text : List Char} {start : Nat} (hstart : start ≤ text.length) :
    ChunkEnds text start (chunkStop text start) := by
  constructor
  · intro close h
    exact ⟨(chunkEnd?_spec h).2, by rw [chunkStop, h]⟩
  · intro h
    rw [chunkStop, h]
    exact isNextHeader_recoverEnd hstart

theorem ChunkEnds.bounds {text : List Char} {start stop : Nat} (h : ChunkEnds text start stop) :
    start ≤ stop ∧ stop ≤ text.length := by
  cases hend : chunkEnd? text start with
  | some close =>
    obtain ⟨hbrace, rfl⟩ := h.closed close hend
    have hle := (chunkEnd?_spec hend).1
    have hlt := (List.getElem?_eq_some_iff.mp hbrace).1
    omega
  | none => exact ⟨(h.unclosed hend).start_le, (h.unclosed hend).le_length⟩

/-! ## The scan by offsets -/

/-- The entry whose header `h` begins at `i` and leaves `rest`. -/
def entryAt (text : List Char) (i : Nat) (h : Header) (rest : List Char) : Entry where
  start := i
  stop := chunkStop text (offsetOf text rest)
  record := h.record
    (Text.sliceChars text (offsetOf text rest) (bodyStop text (offsetOf text rest)))

/-- The first `@` from `pos` on stands at `i`. -/
structure IsNextAt (text : List Char) (pos i : Nat) : Prop where
  le : pos ≤ i
  here : text[i]? = some '@'
  none_before : ∀ j, pos ≤ j → j < i → text[j]? ≠ some '@'

/-- The scan that is at `pos` ends, and what it finds from there on is `s`. -/
inductive Scanning (text : List Char) : (pos : Nat) → (s : Scan) → Prop
  | done {pos : Nat} (hnone : ∀ i, pos ≤ i → text[i]? ≠ some '@') : Scanning text pos {}
  | skip {pos i : Nat} {s : Scan} (hi : IsNextAt text pos i) (hh : header? (text.drop i) = none)
      (hs : Scanning text (i + 1) s) : Scanning text pos ⟨s.entries, i :: s.skipped⟩
  | take {pos i : Nat} {s : Scan} {h : Header} {rest : List Char} (hi : IsNextAt text pos i)
      (hh : header? (text.drop i) = some (h, rest))
      (hs : Scanning text (entryAt text i h rest).stop s) :
      Scanning text pos ⟨entryAt text i h rest :: s.entries, s.skipped⟩

variable {text : List Char} {pos : Nat} {s : Scan}

theorem IsNextAt.unique {i j : Nat} (hi : IsNextAt text pos i) (hj : IsNextAt text pos j) :
    i = j := by
  refine Nat.le_antisymm (Nat.le_of_not_lt fun hlt => ?_) (Nat.le_of_not_lt fun hlt => ?_)
  · exact hi.none_before j hj.le hlt hj.here
  · exact hj.none_before i hi.le hlt hi.here

theorem isNextAt_self (h : text[pos]? = some '@') : IsNextAt text pos pos :=
  ⟨Nat.le_refl pos, h, fun _ hle hlt => absurd hlt (Nat.not_lt.mpr hle)⟩

theorem IsNextAt.back {i : Nat} (hpos : text[pos]? ≠ some '@') (h : IsNextAt text (pos + 1) i) :
    IsNextAt text pos i := by
  refine ⟨Nat.le_of_succ_le h.le, h.here, fun j hle hlt => ?_⟩
  obtain rfl | hgt := Nat.eq_or_lt_of_le hle
  · exact hpos
  · exact h.none_before j hgt hlt

/-- A scan passes over what is no `@`. -/
theorem Scanning.back (hpos : text[pos]? ≠ some '@') (h : Scanning text (pos + 1) s) :
    Scanning text pos s := by
  cases h with
  | done hnone =>
    refine .done fun i hi => ?_
    obtain rfl | hgt := Nat.eq_or_lt_of_le hi
    · exact hpos
    · exact hnone i hgt
  | skip hi hh hs => exact .skip (hi.back hpos) hh hs
  | take hi hh hs => exact .take (hi.back hpos) hh hs

/-- Where a header that begins at `i` ends. -/
theorem lt_offsetOf_of_header {i : Nat} {h : Header} {rest : List Char}
    (hh : header? (text.drop i) = some (h, rest)) :
    i < offsetOf text rest ∧ offsetOf text rest ≤ text.length ∧
      text.drop (offsetOf text rest) = rest := by
  have hlen := length_header? hh
  rw [List.length_drop] at hlen
  refine ⟨?_, Nat.sub_le _ _, drop_offsetOf ((header?_suffix hh).trans (List.drop_suffix i text))⟩
  unfold offsetOf
  omega

/-- **The scan ends**, and `scanFrom` finds what it finds. -/
theorem scanning_scanFrom (start : Nat) (cs : List Char) (hcs : text.drop start = cs) :
    Scanning text start (scanFrom start cs) := by
  fun_induction scanFrom start cs with
  | case1 start =>
    refine .done fun i hi => ?_
    rw [List.getElem?_eq_none (Nat.le_trans (List.drop_eq_nil_iff.mp hcs) hi)]
    exact Option.some_ne_none _ |>.symm
  | case2 start c cs header rest hh stop s ih =>
    obtain ⟨cs', he⟩ := eq_cons_of_isHeader (Option.isSome_of_eq_some hh)
    have hat : text[start]? = some '@' := by
      rw [← List.head?_drop, hcs, he, List.head?_cons]
    rw [← hcs] at hh
    obtain ⟨hlt, hle, hrest⟩ := lt_offsetOf_of_header hh
    -- What stands behind the chunk is the text from the offset on where the chunk ends.
    have hbody := bodyOf_drop hle
    rw [hrest] at hbody
    have hbounds := (chunkEnds_chunkStop hle).bounds
    have hstop : stop = chunkStop text (offsetOf text rest) := by
      simp only [stop, hbody, ← hcs, List.length_drop]
      omega
    have hs := ih (by rw [hbody, hstop])
    simp only [s] at hs ⊢
    rw [hstop] at hs ⊢
    rw [hbody] at hs ⊢
    exact .take (isNextAt_self hat) hh hs
  | case3 start cs s hh ih =>
    have hat : text[start]? = some '@' := by rw [← List.head?_drop, hcs, List.head?_cons]
    have hbehind : text.drop (start + 1) = cs := by
      rw [← List.drop_drop, hcs, List.drop_succ_cons, List.drop_zero]
    exact .skip (isNextAt_self hat) (hcs ▸ hh) (ih hbehind)
  | case4 start c cs hh s hc ih =>
    have hat : text[start]? ≠ some '@' := by
      rw [← List.head?_drop, hcs, List.head?_cons]
      exact fun he => hc (Option.some.inj he)
    have hbehind : text.drop (start + 1) = cs := by
      rw [← List.drop_drop, hcs, List.drop_succ_cons, List.drop_zero]
    exact (ih hbehind).back hat

/-- The scan has one outcome. -/
theorem Scanning.unique {s' : Scan} (h : Scanning text pos s) (h' : Scanning text pos s') :
    s = s' := by
  induction h generalizing s' with
  | done hnone =>
    cases h' with
    | done => rfl
    | skip hi => exact absurd hi.here (hnone _ hi.le)
    | take hi => exact absurd hi.here (hnone _ hi.le)
  | skip hi hh _ ih =>
    cases h' with
    | done hnone => exact absurd hi.here (hnone _ hi.le)
    | skip hi' _ hs' =>
      cases hi.unique hi'
      rw [ih hs']
    | take hi' hh' =>
      cases hi.unique hi'
      cases hh.symm.trans hh'
  | take hi hh _ ih =>
    cases h' with
    | done hnone => exact absurd hi.here (hnone _ hi.le)
    | skip hi' hh' =>
      cases hi.unique hi'
      cases hh.symm.trans hh'
    | take hi' hh' hs' =>
      cases hi.unique hi'
      cases hh.symm.trans hh'
      rw [ih hs']

/-! ## Nothing is lost -/

/-- The offset `i` lies in the chunk of the entry. -/
def Entry.Covers (e : Entry) (i : Nat) : Prop :=
  e.start ≤ i ∧ i < e.stop

/-- **What a scan from `pos` on owes:** the chunks of its entries stand one behind the other; each
begins with the header of its record, and goes on to its closing brace, or else to the next header;
what is skipped is every `@` outside the chunks, and begins no header. -/
structure Scan.Accounts (s : Scan) (text : List Char) (pos : Nat) : Prop where
  chunk : ∀ e ∈ s.entries, pos ≤ e.start ∧ e.start < e.stop ∧ e.stop ≤ text.length
  ordered : s.entries.Pairwise fun e f => e.stop ≤ f.start
  header : ∀ e ∈ s.entries, ∃ h rest, header? (text.drop e.start) = some (h, rest) ∧
    ChunkEnds text (offsetOf text rest) e.stop ∧
    e.record = h.record
      (Text.sliceChars text (offsetOf text rest) (bodyStop text (offsetOf text rest)))
  increasing : s.skipped.Pairwise (· < ·)
  mem_skipped : ∀ i, i ∈ s.skipped ↔
    pos ≤ i ∧ text[i]? = some '@' ∧ ∀ e ∈ s.entries, ¬ e.Covers i
  stray : ∀ i ∈ s.skipped, header? (text.drop i) = none

theorem accounts_done (hnone : ∀ i, pos ≤ i → text[i]? ≠ some '@') :
    Scan.Accounts {} text pos where
  chunk := fun _ he => absurd he List.not_mem_nil
  ordered := .nil
  header := fun _ he => absurd he List.not_mem_nil
  increasing := .nil
  mem_skipped := fun i =>
    ⟨fun hi => absurd hi List.not_mem_nil, fun ⟨hle, hat, _⟩ => absurd hat (hnone i hle)⟩
  stray := fun _ hi => absurd hi List.not_mem_nil

theorem Scan.Accounts.skip {i : Nat} (hi : IsNextAt text pos i)
    (hh : header? (text.drop i) = none) (hs : s.Accounts text (i + 1)) :
    Scan.Accounts ⟨s.entries, i :: s.skipped⟩ text pos where
  chunk := fun e he => by
    have hpos := hi.le
    have := hs.chunk e he
    omega
  ordered := hs.ordered
  header := hs.header
  increasing := List.pairwise_cons.mpr ⟨fun j hj => ((hs.mem_skipped j).mp hj).1, hs.increasing⟩
  mem_skipped := by
    intro j
    rw [List.mem_cons]
    constructor
    · rintro (rfl | hj)
      · refine ⟨hi.le, hi.here, fun e he hcover => ?_⟩
        exact absurd (hs.chunk e he).1 (Nat.not_le.mpr (Nat.lt_succ_of_le hcover.1))
      · obtain ⟨hle, hat, hout⟩ := (hs.mem_skipped j).mp hj
        exact ⟨Nat.le_trans hi.le (Nat.le_of_succ_le hle), hat, hout⟩
    · rintro ⟨hle, hat, hout⟩
      have hij : i ≤ j := Nat.le_of_not_lt fun hlt => hi.none_before j hle hlt hat
      obtain rfl | hlt := Nat.eq_or_lt_of_le hij
      · exact .inl rfl
      · exact .inr ((hs.mem_skipped j).mpr ⟨hlt, hat, hout⟩)
  stray := List.forall_mem_cons.mpr ⟨hh, hs.stray⟩

theorem Scan.Accounts.take {i : Nat} {h : Header} {rest : List Char} (hi : IsNextAt text pos i)
    (hh : header? (text.drop i) = some (h, rest))
    (hs : s.Accounts text (entryAt text i h rest).stop) :
    Scan.Accounts ⟨entryAt text i h rest :: s.entries, s.skipped⟩ text pos := by
  obtain ⟨hlt, hle, -⟩ := lt_offsetOf_of_header hh
  have hends : ChunkEnds text (offsetOf text rest) (entryAt text i h rest).stop :=
    chunkEnds_chunkStop hle
  obtain ⟨hstart, hstop⟩ := hends.bounds
  have hpos := hi.le
  exact {
    chunk := by
      have hne : i < (entryAt text i h rest).stop := Nat.lt_of_lt_of_le hlt hstart
      refine List.forall_mem_cons.mpr ⟨⟨hpos, hne, hstop⟩, fun e he => ?_⟩
      have := hs.chunk e he
      omega
    ordered := List.pairwise_cons.mpr ⟨fun e he => (hs.chunk e he).1, hs.ordered⟩
    header := List.forall_mem_cons.mpr ⟨⟨h, rest, hh, hends, rfl⟩, hs.header⟩
    increasing := hs.increasing
    mem_skipped := by
      intro j
      rw [hs.mem_skipped]
      constructor
      · rintro ⟨hj, hat, hout⟩
        refine ⟨by omega, hat, List.forall_mem_cons.mpr ⟨fun hcover => ?_, hout⟩⟩
        exact absurd hcover.2 (Nat.not_lt.mpr hj)
      · -- Before the header there is no `@`, so one outside the chunk stands behind it.
        rintro ⟨hj, hat, hout⟩
        obtain ⟨hfirst, hout⟩ := List.forall_mem_cons.mp hout
        have hij : i ≤ j := Nat.le_of_not_lt fun hlt => hi.none_before j hj hlt hat
        exact ⟨Nat.le_of_not_lt fun hlt => hfirst ⟨hij, hlt⟩, hat, hout⟩
    stray := hs.stray }

/-- **Every scan accounts for the text.** -/
theorem Scanning.accounts (h : Scanning text pos s) : s.Accounts text pos := by
  induction h with
  | done hnone => exact accounts_done hnone
  | skip hi hh _ ih => exact ih.skip hi hh
  | take hi hh _ ih => exact ih.take hi hh

/-- A scan that finds no entry has met no header. -/
theorem Scan.Accounts.entries_eq_nil_iff (h : s.Accounts text 0) :
    s.entries = [] ↔ ∀ i, header? (text.drop i) = none := by
  constructor
  · intro hnil i
    by_cases hat : text[i]? = some '@'
    · refine h.stray i ((h.mem_skipped i).mpr ⟨Nat.zero_le i, hat, fun e he => ?_⟩)
      rw [hnil] at he
      exact absurd he List.not_mem_nil
    · cases hdrop : text.drop i with
      | nil => rfl
      | cons c cs =>
        rw [← List.head?_drop, hdrop, List.head?_cons] at hat
        exact header?_cons_ne (fun hc => hat (congrArg some hc)) cs
  · intro hnone
    refine List.eq_nil_iff_forall_not_mem.mpr fun e he => ?_
    obtain ⟨_, _, hsome, -⟩ := h.header e he
    cases (hnone e.start).symm.trans hsome

theorem scanning_scan (text : String) : Scanning text.toList 0 (scan text) :=
  scanning_scanFrom 0 text.toList List.drop_zero

/-! ## What a text yields -/

/-- A text of blanks holds no header. -/
theorem header?_of_blanks {cs : List Char} (h : ∀ c ∈ cs, Text.isBlank c = true) :
    header? cs = none := by
  cases cs with
  | nil => rfl
  | cons c cs =>
    refine header?_cons_ne ?_ cs
    rintro rfl
    exact absurd (h '@' List.mem_cons_self) (by decide)

theorem scan_entries_eq_nil_iff (text : String) :
    (scan text).entries = [] ↔ ∀ i, header? (text.toList.drop i) = none :=
  (scanning_scan text).accounts.entries_eq_nil_iff

theorem scan_entries_of_allBlank {text : String} (h : Text.allBlank text = true) :
    (scan text).entries = [] :=
  (scan_entries_eq_nil_iff text).mpr fun _ =>
    header?_of_blanks fun c hc => List.all_eq_true.mp h c (List.mem_of_mem_drop hc)

theorem parse_of_entries {text : String} (h : (scan text).entries ≠ []) :
    parse text = .ok (scan text).records := by
  unfold parse
  split
  · rename_i hnil
    exact absurd (List.map_eq_nil_iff.mp hnil) h
  · rfl

theorem parse_of_no_entries {text : String} (h : (scan text).entries = []) :
    parse text = if Text.allBlank text then .ok [] else .error ⟨text.length⟩ := by
  unfold parse Scan.records
  rw [h]
  rfl

/-- **The scan of a text ends, and accounts for all of it.** What it finds are the records of the
text; a text that is not blank is refused if nothing in it begins a header. -/
theorem scan_accounts (text : String) :
    (∀ s, Scanning text.toList 0 s ↔ s = scan text) ∧
      (scan text).Accounts text.toList 0 ∧
      (∀ rs, parse text = .ok rs → rs = (scan text).records) ∧
      (∀ e, parse text = .error e ↔ e = ⟨text.length⟩ ∧ Text.allBlank text = false ∧
        ∀ i, header? (text.toList.drop i) = none) ∧
      (parse text = .ok [] ↔ Text.allBlank text = true) := by
  have hscan := scanning_scan text
  refine ⟨fun s => ⟨fun hs => hs.unique hscan, fun hs => hs ▸ hscan⟩, hscan.accounts, ?_⟩
  rw [← scan_entries_eq_nil_iff]
  by_cases hentries : (scan text).entries = []
  · rw [parse_of_no_entries hentries, Scan.records, hentries, List.map_nil]
    cases Text.allBlank text with
    | true => simp [eq_comm]
    | false => simp [eq_comm]
  · have hblank : Text.allBlank text ≠ true := fun h => hentries (scan_entries_of_allBlank h)
    have hrecords : (scan text).records ≠ [] := fun h => hentries (List.map_eq_nil_iff.mp h)
    rw [parse_of_entries hentries]
    refine ⟨fun rs hrs => (Except.ok.inj hrs).symm, fun e => ⟨?_, ?_⟩, ⟨?_, ?_⟩⟩
    · rintro ⟨⟩
    · exact fun he => absurd he.2.2 hentries
    · exact fun he => absurd (Except.ok.inj he) hrecords
    · exact fun he => absurd he hblank

end CiteSieve.Bibtex
