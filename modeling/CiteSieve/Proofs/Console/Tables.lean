import CiteSieve.Console.Display
import CiteSieve.Proofs.Results

/-!
# What is shown of tables

A table is shown when its title and every cell are.

* `Table.shown_untitled_iff`, `Table.shown_titled_iff`: what is shown of a table.
* `Table.exists_shown_untitled_iff`, `Table.exists_shown_titled_iff`: when it is shown at all.
-/

namespace CiteSieve.Console

variable {headers : List String} {rows rows' : List (List String)} {title title' : String}

theorem Table.shown_untitled : (Table.mk none headers rows).shown =
    (rows.mapM fun row : List String => row.mapM Console.shown).map fun rows =>
      ⟨none, headers, rows⟩ := rfl

theorem Table.shown_titled : (Table.mk (some title) headers rows).shown =
    ((Console.shown title).map some).bind fun title =>
      (rows.mapM fun row : List String => row.mapM Console.shown).map fun rows =>
        ⟨title, headers, rows⟩ := rfl

theorem Table.shown_untitled_iff :
    (Table.mk none headers rows).shown = .ok ⟨none, headers, rows'⟩ ↔
      rows.mapM (fun row => row.mapM Console.shown) = .ok rows' := by
  rw [shown_untitled]
  cases rows.mapM fun row : List String => row.mapM Console.shown <;> simp [Except.map]

theorem Table.shown_titled_iff :
    (Table.mk (some title) headers rows).shown = .ok ⟨some title', headers, rows'⟩ ↔
      Console.shown title = .ok title' ∧
        rows.mapM (fun row => row.mapM Console.shown) = .ok rows' := by
  rw [shown_titled]
  cases Console.shown title <;>
    cases rows.mapM fun row : List String => row.mapM Console.shown <;>
      simp [Except.map, Except.bind]

/-- Rows are shown when every cell is. -/
theorem exists_shown_rows_iff :
    (∃ cells, rows.mapM (fun row => row.mapM Console.shown) = .ok cells) ↔
      ∀ row ∈ rows, ∀ cell ∈ row, ∃ t, Console.shown cell = .ok t :=
  exists_mapM_eq_ok_iff.trans (forall₂_congr fun _ _ => exists_mapM_eq_ok_iff)

theorem Table.exists_shown_untitled_iff :
    (∃ t, (Table.mk none headers rows).shown = .ok t) ↔
      ∀ row ∈ rows, ∀ cell ∈ row, ∃ t, Console.shown cell = .ok t := by
  rw [← exists_shown_rows_iff, shown_untitled]
  cases rows.mapM fun row : List String => row.mapM Console.shown <;> simp [Except.map]

theorem Table.exists_shown_titled_iff :
    (∃ t, (Table.mk (some title) headers rows).shown = .ok t) ↔
      (∃ t, Console.shown title = .ok t) ∧
        ∀ row ∈ rows, ∀ cell ∈ row, ∃ t, Console.shown cell = .ok t := by
  rw [← exists_shown_rows_iff, shown_titled]
  cases Console.shown title <;>
    cases rows.mapM fun row : List String => row.mapM Console.shown <;>
      simp [Except.map, Except.bind]

end CiteSieve.Console
