import CiteSieve.Export
import CiteSieve.Proofs.Csv.Reader

/-!
# Reading an exported table back

A cell as it is written brings a reader from its beginning to a place where the next delimiter or
line end closes it, with just its text read (`run_printCell`): a quoted cell whatever it holds, and
any other one because nothing in it has a meaning of its own. Only a row that is one empty cell is
written as a blank line.

* `run_printRow`: a row that is written adds that row.
* `read_print`: a table is read back, if its cells hold no carriage return.
* `read_csvOfItems`: so is the exported table of any items.
-/

namespace CiteSieve.Csv

open Reader

variable {d : Dialect}

/-! ## Cells -/

/-- Text without special characters is read up to its end. -/
theorem run_plain {cs : List Char} (h : ∀ c ∈ cs, d.isSpecial c = false ∧ c ≠ '\r') {r : Reader}
    (hr : r.place = .plain) : r.run d cs = { r with cell := r.cell ++ cs } := by
  induction cs generalizing r with
  | nil => rw [run_nil, List.append_nil]
  | cons c cs ih =>
    obtain ⟨⟨hc, hreturn⟩, hcs⟩ := List.forall_mem_cons.mp h
    have hnext : r.next d c = r.take c .plain := by
      unfold next
      rw [hr]
      exact nextPlain_text hc hreturn
    rw [run_cons, hnext, ih hcs rfl]
    simp only [take, hr, List.append_assoc, List.singleton_append]

/-- Within quotes every text is read up to its end, if its quotes are written twice. -/
theorem run_doubleQuotes (cs : List Char) {r : Reader} (hr : r.place = .quoted) :
    r.run d (d.doubleQuotes cs) = { r with cell := r.cell ++ cs } := by
  induction cs generalizing r with
  | nil => exact (congrArg (fun cell => { r with cell }) (List.append_nil r.cell)).symm
  | cons c cs ih =>
    have hdouble : d.doubleQuotes (c :: cs) =
        (if c = d.quote then [c, c] else [c]) ++ d.doubleQuotes cs := List.flatMap_cons
    have hchar : r.run d (if c = d.quote then [c, c] else [c]) = r.take c .quoted := by
      by_cases hc : c = d.quote
      · have hclose : r.next d c = { r with place := .behindQuote } := by
          unfold next
          rw [hr]
          exact if_pos hc
        have hopen : ({ r with place := .behindQuote } : Reader).next d c = r.take c .quoted :=
          if_pos hc
        rw [if_pos hc, run_cons, run_cons, run_nil, hclose, hopen]
      · rw [if_neg hc, run_cons, run_nil]
        unfold next
        rw [hr]
        exact if_neg hc
    rw [hdouble, run_append, hchar, ih rfl]
    simp only [take, hr, List.append_assoc, List.singleton_append]

/-- **A cell that is written** is read up to its end; a row has begun, except if there was nothing
to read. -/
theorem run_printCell (hd : d.IsDistinct) {cs : List Char} (hcs : '\r' ∉ cs) {r : Reader}
    (hr : r.place = .rowStart ∨ r.place = .cellStart) (hcell : r.cell = []) :
    ∃ place, r.run d (d.printCell cs) = { r with cell := cs, place } ∧ place ≠ .quoted ∧
      (place = .rowStart → r.place = .rowStart ∧ cs = []) := by
  unfold Dialect.printCell
  split
  · refine ⟨.behindQuote, ?_, nofun, nofun⟩
    have hclose : ∀ cell, ({ r with cell, place := .quoted } : Reader).next d d.quote =
        { r with cell, place := .behindQuote } := fun _ => if_pos rfl
    rw [run_cons, next_quote hd hr, run_append, run_doubleQuotes cs rfl, run_cons, run_nil, hclose,
      hcell, List.nil_append]
  · rename_i hplain
    have hall : ∀ c ∈ cs, d.isSpecial c = false ∧ c ≠ '\r' := fun c hc =>
      ⟨Bool.eq_false_iff.mpr fun hs => hplain (List.any_eq_true.mpr ⟨c, hc, hs⟩),
        fun he => hcs (he ▸ hc)⟩
    cases cs with
    | nil =>
      refine ⟨r.place, ?_, by rcases hr with h | h <;> rw [h] <;> nofun, fun h => ⟨h, rfl⟩⟩
      rw [run_nil, ← hcell]
    | cons c cs =>
      obtain ⟨⟨hc, hreturn⟩, htail⟩ := List.forall_mem_cons.mp hall
      refine ⟨.plain, ?_, nofun, nofun⟩
      rw [run_cons, next_first hc hreturn hr, run_plain htail rfl]
      simp only [take, hcell, List.nil_append, List.singleton_append]

/-! ## Rows -/

/-- **A row that is written** is read as that row, from its first cell or from a later one. -/
theorem run_printRow (hd : d.IsDistinct) : ∀ {row : List String},
    (∀ s ∈ row, '\r' ∉ s.toList) → row ≠ [] → ∀ {r : Reader},
    r.place = .rowStart ∧ row ≠ [""] ∨ r.place = .cellStart → r.cell = [] →
    r.run d (d.printRow row) = { rows := r.rows ++ [r.row ++ row] }
  | [], _, hne, _, _, _ => absurd rfl hne
  | [s], hrow, _, r, hr, hcell => by
    obtain ⟨place, hrun, hquoted, hstart⟩ := run_printCell hd (hrow s List.mem_cons_self)
      (hr.imp_left And.left) hcell
    have hplace : place ≠ .rowStart := by
      intro h
      obtain ⟨hbegin, hempty⟩ := hstart h
      rcases hr with ⟨-, hs⟩ | hr
      · exact hs (congrArg ([·]) (String.toList_eq_nil_iff.mp hempty))
      · exact absurd (hbegin.symm.trans hr) nofun
    unfold Dialect.printRow
    rw [List.map_cons, List.map_nil, List.intercalate_singleton, run_append, hrun, run_cons, run_nil,
      next_lineFeed hd hquoted hplace, closeRow, String.ofList_toList]
  | s :: t :: row, hrow, _, r, hr, hcell => by
    obtain ⟨hs, hrest⟩ := List.forall_mem_cons.mp hrow
    obtain ⟨place, hrun, hquoted, -⟩ := run_printCell hd hs (hr.imp_left And.left) hcell
    have hprint : d.printRow (s :: t :: row) =
        d.printCell s.toList ++ (d.delimiter :: d.printRow (t :: row)) := by
      unfold Dialect.printRow
      rw [List.map_cons, List.map_cons, List.intercalate_cons_cons]
      simp only [List.append_assoc, List.singleton_append]
      rfl
    rw [hprint, run_append, hrun, run_cons, next_delimiter hd hquoted,
      run_printRow hd hrest (List.cons_ne_nil t row) (.inr rfl) rfl]
    simp only [closeCell, String.ofList_toList, List.append_assoc, List.singleton_append]

/-! ## Tables -/

/-- A row that is no blank line when it is written, and that holds no carriage return. -/
structure IsReadable (row : List String) : Prop where
  ne_nil : row ≠ []
  ne_blank : row ≠ [""]
  noReturn : ∀ s ∈ row, '\r' ∉ s.toList

/-- **A table is read back**, whatever its cells hold, and whatever characters structure it. -/
theorem read_print (hd : d.IsDistinct) {rows : List (List String)}
    (h : ∀ row ∈ rows, IsReadable row) : read d (print d rows) = rows := by
  have hrun : ∀ before : List (List String),
      ({ rows := before } : Reader).run d (rows.flatMap d.printRow) = { rows := before ++ rows } := by
    induction rows with
    | nil => exact fun before => by rw [List.append_nil]; rfl
    | cons row rows ih =>
      intro before
      obtain ⟨hrow, hrows⟩ := List.forall_mem_cons.mp h
      rw [List.flatMap_cons, run_append,
        run_printRow hd hrow.noReturn hrow.ne_nil (.inl ⟨rfl, hrow.ne_blank⟩) rfl, ih hrows,
        List.nil_append, List.append_assoc, List.singleton_append]
  unfold read print
  rw [String.toList_ofList, hrun [], List.nil_append]
  rfl

/-- **An exported table is read back.** Any two characters that are no line ends and not the same
make a dialect, and a reader of this dialect finds in the table of any items the heads of the
columns and behind them one row for each item, in order, of just its eight cells. -/
theorem read_csvOfItems {delimiter quote : Char} (hne : delimiter ≠ quote)
    (hdelimiter : isLineEnd delimiter = false) (hquote : isLineEnd quote = false)
    {items : List Item} (h : ∀ i ∈ items, ∀ s ∈ i.csvRow, '\r' ∉ s.toList) :
    Dialect.ofTexts (String.ofList [delimiter]) (String.ofList [quote]) =
        .ok ⟨delimiter, quote⟩ ∧
      read ⟨delimiter, quote⟩ (csvOfItems ⟨delimiter, quote⟩ items) =
        csvHeaders :: items.map Item.csvRow := by
  constructor
  · unfold Dialect.ofTexts
    rw [String.toList_ofList, String.toList_ofList]
  · refine read_print ⟨hne, hdelimiter, hquote⟩ (List.forall_mem_cons.mpr ⟨?_, ?_⟩)
    · exact ⟨by decide, by decide, by decide⟩
    · intro row hrow
      obtain ⟨i, hi, rfl⟩ := List.mem_map.mp hrow
      exact ⟨List.cons_ne_nil _ _, fun hblank => (nomatch (List.cons.inj hblank).2), h i hi⟩

/-- Cells that begin or end with a quote, that hold quotes before delimiters, or several lines, and
a key that is empty. -/
def quotedItem : Item where
  record := ⟨"misc", "", [("title", "'a';''"), ("author", "one\ntwo"), ("year", ";")]⟩
  outcome := .matched
  names := ["A", "'"]
  hits := [("A", { title := ["';"] })]

theorem read_csvOfItems_quoted : (∀ s ∈ quotedItem.csvRow, '\r' ∉ s.toList) ∧
    read ⟨';', '\''⟩ (csvOfItems ⟨';', '\''⟩ [quotedItem, quotedItem]) =
      [csvHeaders, quotedItem.csvRow, quotedItem.csvRow] := by
  have h : ∀ s ∈ quotedItem.csvRow, '\r' ∉ s.toList := by decide
  refine ⟨h, (read_csvOfItems (by decide) (by decide) (by decide) ?_).2⟩
  exact List.forall_mem_cons.mpr ⟨h, List.forall_mem_singleton.mpr h⟩

end CiteSieve.Csv
