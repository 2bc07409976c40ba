import CiteSieve.Proofs.Console.Escaped
import CiteSieve.Proofs.Console.Tables
import CiteSieve.Proofs.Console.Verbatim
import CiteSieve.Report

/-!
# Tables that show texts as they are

The cells of a table hold escaped texts, which are always shown, and shown as they are where
escaping works for the text. In the title of a term table the name of the block is not escaped:
there a tag in the name is taken out, and one that closes nothing is an error.

* `plainItemTable`, `plainTermTable`, `plainTopTable`, `plainBlockTable`: the tables with the texts
  as they are.
* `exists_shown_itemTable_iff`, `exists_shown_termTable_iff`, `exists_shown_blockTable`: when the
  tables are shown at all.
* `tables_verbatim`: when the tables with the texts as they are are those that are shown.
-/

namespace CiteSieve

open Console (Table escape shown)

namespace Report

/-! ## Cells -/

/-- The text, or `placeholder` where it is empty. -/
def textOr (placeholder text : String) : String :=
  if text = "" then placeholder else text

theorem shown_escapeOr_iff {placeholder plain s : String} (h : shown placeholder = .ok plain) :
    shown (escapeOr placeholder s) = .ok (textOr plain s) ↔ shown (escape s) = .ok s := by
  unfold escapeOr textOr
  by_cases hs : s = ""
  · rw [if_pos (Console.escape_eq_empty_iff.mpr hs), if_pos hs, h, hs]
    exact iff_of_true rfl rfl
  · rw [if_neg (Console.escape_eq_empty_iff.not.mpr hs), if_neg hs]

theorem exists_shown_escapeOr {placeholder plain : String} (h : shown placeholder = .ok plain)
    (s : String) : ∃ t, shown (escapeOr placeholder s) = .ok t := by
  unfold escapeOr
  split
  · exact ⟨plain, h⟩
  · exact Console.exists_shown_escape s

theorem isDigit_of_mem_toString (n : Nat) : ∀ c ∈ (toString n).toList, c.isDigit = true := by
  intro c hc
  rw [Nat.toString_eq_ofList_toDigits, String.toList_ofList] at hc
  exact Nat.isDigit_of_mem_toDigits (by decide) (by decide) hc

theorem isPlain_of_isDigit {c : Char} (h : c.isDigit = true) : Console.IsPlain c := by
  have hge : 48 ≤ c.toNat := by
    rw [Char.isDigit, Bool.and_eq_true, decide_eq_true_iff] at h
    exact h.1
  refine ⟨?_, ?_, ?_⟩
  · rintro rfl
    exact absurd h (by decide)
  · rintro rfl
    exact absurd h (by decide)
  · simp only [Console.isHidden, Bool.or_eq_false_iff, beq_eq_false_iff_ne]
    omega

theorem shown_toString (n : Nat) : shown (toString n) = .ok (toString n) :=
  Console.shown_of_isPlain fun c hc => isPlain_of_isDigit (isDigit_of_mem_toString n c hc)

theorem shown_checkMark (b : Bool) : shown (checkMark b) = .ok (checkMark b) := by
  cases b <;> exact Console.shown_of_isPlain (by decide)

theorem shown_operator (o : Option Operator) :
    shown ((o.map Operator.name).getD "") = .ok ((o.map Operator.name).getD "") := by
  rcases o with _ | _ | _ <;> exact Console.shown_of_isPlain (by decide)

/-! ## Items -/

/-- The texts of a row. -/
def itemTexts (showMissing : Bool) (i : Item) : List String :=
  [i.record.citeKey, i.record.cleanTitle, i.record.year, i.blocksText, i.detail] ++
    if showMissing then [", ".intercalate i.missing] else []

/-- The row of an item, with its texts as they are. -/
def plainItemRow (showMissing : Bool) (i : Item) : List String :=
  [i.record.citeKey, textOr "No title" i.record.cleanTitle, textOr "-" i.record.year,
    i.blocksText, i.detail] ++
    if showMissing then [", ".intercalate i.missing] else []

/-- The table of items, with their texts as they are. -/
def plainItemTable (is : List Item) (title : Option String) (showMissing : Bool) : Table :=
  let headers := itemHeaders showMissing
  { title, headers
    rows :=
      if is.isEmpty then [headers.map fun _ => "-"]
      else is.map (plainItemRow showMissing) }

theorem shown_noTitle : shown "[dim]No title[/dim]" = .ok "No title" := rfl

theorem shown_noValue : shown "[dim]-[/dim]" = .ok "-" := rfl

theorem shown_itemRow_iff {showMissing : Bool} {i : Item} :
    (itemRow showMissing i).mapM shown = .ok (plainItemRow showMissing i) ↔
      ∀ text ∈ itemTexts showMissing i, shown (escape text) = .ok text := by
  have hmissing : (if showMissing then [escape (", ".intercalate i.missing)] else []).mapM shown =
      .ok (if showMissing then [", ".intercalate i.missing] else []) ↔
      ∀ text ∈ if showMissing then [", ".intercalate i.missing] else [],
        shown (escape text) = .ok text := by
    cases showMissing with
    | false => exact iff_of_true rfl (List.forall_mem_nil _)
    | true =>
      simp only [if_true, mapM_cons_eq_ok_iff, List.forall_mem_singleton]
      exact and_iff_left rfl
  simp only [itemRow, plainItemRow, itemTexts, List.cons_append, List.nil_append,
    mapM_cons_eq_ok_iff, List.forall_mem_cons, hmissing, shown_escapeOr_iff shown_noTitle,
    shown_escapeOr_iff shown_noValue]

theorem exists_shown_itemCell (showMissing : Bool) (i : Item) :
    ∀ cell ∈ itemRow showMissing i, ∃ t, shown cell = .ok t := by
  have hmissing : ∀ cell ∈ if showMissing then [escape (", ".intercalate i.missing)] else [],
      ∃ t, shown cell = .ok t := by
    cases showMissing with
    | false => exact List.forall_mem_nil _
    | true => exact List.forall_mem_singleton.mpr (Console.exists_shown_escape _)
  simp only [itemRow, List.cons_append, List.nil_append, List.forall_mem_cons]
  exact ⟨Console.exists_shown_escape _, exists_shown_escapeOr shown_noTitle _,
    exists_shown_escapeOr shown_noValue _, Console.exists_shown_escape _,
    Console.exists_shown_escape _, hmissing⟩

theorem shown_itemRows_iff (is : List Item) (title : Option String) (showMissing : Bool) :
    (itemTable is title showMissing).rows.mapM (fun row => row.mapM shown) =
        .ok (plainItemTable is title showMissing).rows ↔
      ∀ i ∈ is, ∀ text ∈ itemTexts showMissing i, shown (escape text) = .ok text := by
  cases is with
  | nil =>
    refine iff_of_true ?_ (List.forall_mem_nil _)
    cases showMissing <;> rfl
  | cons i is => exact mapM_map_eq_ok_iff.trans (forall₂_congr fun i _ => shown_itemRow_iff)

theorem exists_shown_itemRows (is : List Item) (title : Option String) (showMissing : Bool) :
    ∀ row ∈ (itemTable is title showMissing).rows, ∀ cell ∈ row, ∃ t, shown cell = .ok t := by
  cases is with
  | nil =>
    refine List.forall_mem_singleton.mpr ?_
    rw [List.forall_mem_map]
    exact fun _ _ => ⟨_, shown_noValue⟩
  | cons i is => exact List.forall_mem_map.mpr fun i _ => exists_shown_itemCell showMissing i

theorem shown_itemTable_iff (is : List Item) (title : Option String) (showMissing : Bool) :
    (itemTable is title showMissing).shown = .ok (plainItemTable is title showMissing) ↔
      (∀ t ∈ title, shown t = .ok t) ∧
        ∀ i ∈ is, ∀ text ∈ itemTexts showMissing i, shown (escape text) = .ok text := by
  rw [← shown_itemRows_iff is title showMissing]
  cases title with
  | none => exact Table.shown_untitled_iff.trans (and_iff_right (by simp)).symm
  | some t => exact Table.shown_titled_iff.trans (and_congr_left fun _ => by simp)

/-- A table of items is shown unless its title is not. -/
theorem exists_shown_itemTable_iff (is : List Item) (title : Option String) (showMissing : Bool) :
    (∃ t, (itemTable is title showMissing).shown = .ok t) ↔
      ∀ t ∈ title, ∃ t', shown t = .ok t' := by
  have hrows := exists_shown_itemRows is title showMissing
  cases title with
  | none => exact iff_of_true (Table.exists_shown_untitled_iff.mpr hrows) (by simp)
  | some t => exact (Table.exists_shown_titled_iff.trans (and_iff_left hrows)).trans (by simp)

/-! ## Terms -/

/-- The row of a term, with its text as it is. -/
def plainTermRow (term : String) (c : TermCount) : List String :=
  [term, if c.documents = 0 then "no matches" else toString c.documents] ++
    Field.all.map fun f => toString (c.get f)

/-- The terms of a block, as they are, below the name of the block. -/
def plainTermTable (s : TermStats) (block : String) : Table :=
  { title := some ("Terms: " ++ block)
    headers := ["Term", "Docs"] ++ Field.all.map Field.label
    rows := ((s.block block).mergeSort termComesFirst).map fun (t, c) => plainTermRow t c }

/-- The top terms, as they are. -/
def plainTopTable (s : TermStats) : Table :=
  { title := some "Top Terms"
    headers := ["Term", "Docs"] ++ Field.all.map Field.label
    rows := (s.topTerms topLimit).map fun (t, n) =>
      [t, toString n] ++
        Field.all.map fun f => toString (((s.fieldCounts f).lookup t).getD 0) }

/-- The statistics, with all terms as they are. -/
def plainStatistics (q : Query) (s : TermStats) : List Table :=
  plainTopTable s ::
    (q.blockNames.filter fun n => (s.byBlock.lookup n).isSome).map (plainTermTable s)

/-- Numbers are shown as they are. -/
theorem shown_counts (f : Field → Nat) :
    (Field.all.map fun x => toString (f x)).mapM shown =
      .ok (Field.all.map fun x => toString (f x)) :=
  mapM_map_eq_ok_iff.mpr fun x _ => shown_toString (f x)

theorem shown_documents (c : TermCount) :
    shown (if c.documents = 0 then "[dim]no matches[/dim]" else toString c.documents) =
      .ok (if c.documents = 0 then "no matches" else toString c.documents) := by
  split
  · rfl
  · exact shown_toString c.documents

theorem shown_termRow_iff {term : String} {c : TermCount} :
    (termRow term c).mapM shown = .ok (plainTermRow term c) ↔ shown (escape term) = .ok term := by
  simp only [termRow, plainTermRow, List.cons_append, List.nil_append, mapM_cons_eq_ok_iff,
    shown_documents, shown_counts, and_true]

theorem exists_shown_termCell (term : String) (c : TermCount) :
    ∀ cell ∈ termRow term c, ∃ t, shown cell = .ok t := by
  simp only [termRow, List.cons_append, List.nil_append, List.forall_mem_cons, List.forall_mem_map]
  exact ⟨Console.exists_shown_escape term, ⟨_, shown_documents c⟩, fun _ _ => ⟨_, shown_toString _⟩⟩

/-- The title of a term table is read with the name in it, and its cells show the terms. -/
theorem shown_termTable_iff (s : TermStats) (block title : String) :
    (termTable s block).shown = .ok { plainTermTable s block with title := some title } ↔
      shown ("Terms: " ++ block) = .ok title ∧
        ∀ t ∈ (s.block block).keys, shown (escape t) = .ok t := by
  refine Table.shown_titled_iff.trans (and_congr_right fun _ => ?_)
  refine mapM_map_eq_ok_iff.trans ?_
  rw [Assoc.keys, List.forall_mem_map]
  exact forall_congr' fun e => imp_congr List.mem_mergeSort shown_termRow_iff

/-- A term table is shown unless its title is not. -/
theorem exists_shown_termTable_iff (s : TermStats) (block : String) :
    (∃ t, (termTable s block).shown = .ok t) ↔ ∃ t, shown ("Terms: " ++ block) = .ok t := by
  refine Table.exists_shown_titled_iff.trans (and_iff_left ?_)
  rw [List.forall_mem_map]
  exact fun e _ => exists_shown_termCell e.1 e.2

/-- A tag in the name of a block is not shown in its title. -/
theorem tag?_eq_none_of_shown_termTitle {block : String}
    (h : shown ("Terms: " ++ block) = .ok ("Terms: " ++ block)) :
    ∀ t, '[' :: t <:+ block.toList → Console.tag? ('[' :: t) = none := by
  intro t ht
  refine Console.tag?_eq_none_of_shown h t (ht.trans ?_)
  rw [String.toList_append]
  exact List.suffix_append _ _

theorem shown_topTable_iff (s : TermStats) :
    (topTable s).shown = .ok (plainTopTable s) ↔
      ∀ e ∈ s.topTerms topLimit, shown (escape e.1) = .ok e.1 := by
  refine Table.shown_titled_iff.trans ((and_iff_right rfl).trans ?_)
  refine mapM_map_eq_ok_iff.trans (forall₂_congr fun e _ => ?_)
  simp only [List.cons_append, List.nil_append, mapM_cons_eq_ok_iff, shown_toString, shown_counts,
    and_true]

theorem exists_shown_topTable (s : TermStats) : ∃ t, (topTable s).shown = .ok t := by
  refine Table.exists_shown_titled_iff.mpr ⟨⟨_, rfl⟩, ?_⟩
  simp only [List.forall_mem_map, List.cons_append, List.nil_append, List.forall_mem_cons]
  exact fun e _ => ⟨Console.exists_shown_escape e.1, ⟨_, shown_toString _⟩,
    fun _ _ => ⟨_, shown_toString _⟩⟩

theorem shown_statistics_iff (q : Query) (s : TermStats) :
    (statistics q s).mapM Table.shown = .ok (plainStatistics q s) ↔
      (∀ e ∈ s.topTerms topLimit, shown (escape e.1) = .ok e.1) ∧
        ∀ n ∈ q.blockNames.filter fun n => (s.byBlock.lookup n).isSome,
          shown ("Terms: " ++ n) = .ok ("Terms: " ++ n) ∧
            ∀ t ∈ (s.block n).keys, shown (escape t) = .ok t :=
  mapM_cons_eq_ok_iff.trans (and_congr (shown_topTable_iff s)
    (mapM_map_eq_ok_iff.trans (forall₂_congr fun n _ => shown_termTable_iff s n _)))

/-- The statistics are shown unless the title of a block is not. -/
theorem exists_shown_statistics_iff (q : Query) (s : TermStats) :
    (∃ ts, (statistics q s).mapM Table.shown = .ok ts) ↔
      ∀ n ∈ q.blockNames.filter fun n => (s.byBlock.lookup n).isSome,
        ∃ t, shown ("Terms: " ++ n) = .ok t := by
  rw [exists_mapM_eq_ok_iff, statistics, List.forall_mem_cons, List.forall_mem_map]
  exact (and_iff_right (exists_shown_topTable s)).trans
    (forall₂_congr fun n _ => exists_shown_termTable_iff s n)

/-! ## Blocks -/

/-- The row of a block, with its texts as they are. -/
def plainBlockRow (q : Query) (index : Nat) (b : Block) : List String :=
  [toString (index + 1), b.name, " | ".intercalate b.terms, checkMark b.isRegex,
    checkMark b.exclude, ((q.operators[index]?).map Operator.name).getD ""]

/-- The table of the blocks of a query, with their texts as they are. -/
def plainBlockTable (q : Query) : Table :=
  { title := some "Blocks"
    headers := ["#", "Name", "Terms", "Regex", "NOT", "Next"]
    rows := q.blocks.mapIdx (plainBlockRow q) }

theorem shown_blockRow_iff {q : Query} {index : Nat} {b : Block} :
    (blockRow q index b).mapM shown = .ok (plainBlockRow q index b) ↔
      shown (escape b.name) = .ok b.name ∧
        shown (escape (" | ".intercalate b.terms)) = .ok (" | ".intercalate b.terms) := by
  have hnil : [].mapM shown = .ok [] := rfl
  simp only [blockRow, plainBlockRow, mapM_cons_eq_ok_iff, shown_toString, shown_checkMark,
    shown_operator, hnil, true_and, and_true]

theorem exists_shown_blockCell (q : Query) (index : Nat) (b : Block) :
    ∀ cell ∈ blockRow q index b, ∃ t, shown cell = .ok t := by
  simp only [blockRow, List.forall_mem_cons]
  exact ⟨⟨_, shown_toString _⟩, Console.exists_shown_escape _, Console.exists_shown_escape _,
    ⟨_, shown_checkMark _⟩, ⟨_, shown_checkMark _⟩, ⟨_, shown_operator _⟩, List.forall_mem_nil _⟩

theorem shown_blockTable_iff (q : Query) :
    (blockTable q).shown = .ok (plainBlockTable q) ↔
      ∀ b ∈ q.blocks, shown (escape b.name) = .ok b.name ∧
        shown (escape (" | ".intercalate b.terms)) = .ok (" | ".intercalate b.terms) := by
  refine Table.shown_titled_iff.trans ((and_iff_right rfl).trans ?_)
  have hrows : q.blocks.zipIdx.map Prod.fst = q.blocks := List.zipIdx_map_fst 0 q.blocks
  rw [List.mapIdx_eq_zipIdx_map, List.mapIdx_eq_zipIdx_map]
  refine mapM_map_eq_ok_iff.trans ?_
  conv_rhs => rw [← hrows, List.forall_mem_map]
  exact forall₂_congr fun e _ => shown_blockRow_iff

/-- **The blocks of a query are shown,** whatever their names and terms are. -/
theorem exists_shown_blockTable (q : Query) : ∃ t, (blockTable q).shown = .ok t := by
  refine Table.exists_shown_titled_iff.mpr ⟨⟨_, rfl⟩, ?_⟩
  intro row hrow
  obtain ⟨index, hindex, rfl⟩ := List.mem_mapIdx.mp hrow
  exact exists_shown_blockCell q index _

/-! ## All tables -/

/-- What becomes of the texts in the tables of items, of statistics and of blocks. -/
structure ShowsTexts (is : List Item) (title : Option String) (showMissing : Bool) (s : TermStats)
    (q : Query) : Prop where
  /-- An escaped text is never an error. -/
  escaped : ∀ text, ∃ t, shown (escape text) = .ok t
  /-- The table of items has the texts as they are, if escaping works for them, under a title that
  is not escaped, -/
  items : (itemTable is title showMissing).shown = .ok (plainItemTable is title showMissing) ↔
    (∀ t ∈ title, shown t = .ok t) ∧
      ∀ i ∈ is, ∀ text ∈ itemTexts showMissing i, shown (escape text) = .ok text
  /-- and only that title can be an error. -/
  items_shown : (∃ t, (itemTable is title showMissing).shown = .ok t) ↔
    ∀ t ∈ title, ∃ t', shown t = .ok t'
  /-- The table of a block has the terms as they are, if escaping works for them, under a title in
  which the name is not escaped, -/
  terms : ∀ block shownTitle, (termTable s block).shown =
      .ok { plainTermTable s block with title := some shownTitle } ↔
    shown ("Terms: " ++ block) = .ok shownTitle ∧
      ∀ t ∈ (s.block block).keys, shown (escape t) = .ok t
  /-- and only that title can be an error. -/
  terms_shown : ∀ block, (∃ t, (termTable s block).shown = .ok t) ↔
    ∃ t, shown ("Terms: " ++ block) = .ok t
  /-- A name with a tag is not in its title as it is. -/
  title_tagged : ∀ block, shown ("Terms: " ++ block) = .ok ("Terms: " ++ block) →
    ∀ t, '[' :: t <:+ block.toList → Console.tag? ('[' :: t) = none
  /-- So it is with the tables of all blocks below the table of the top terms, -/
  statistics : (statistics q s).mapM Table.shown = .ok (plainStatistics q s) ↔
    (∀ e ∈ s.topTerms topLimit, shown (escape e.1) = .ok e.1) ∧
      ∀ n ∈ q.blockNames.filter fun n => (s.byBlock.lookup n).isSome,
        shown ("Terms: " ++ n) = .ok ("Terms: " ++ n) ∧
          ∀ t ∈ (s.block n).keys, shown (escape t) = .ok t
  /-- where only titles can be errors. -/
  statistics_shown : (∃ ts, (Report.statistics q s).mapM Table.shown = .ok ts) ↔
    ∀ n ∈ q.blockNames.filter fun n => (s.byBlock.lookup n).isSome,
      ∃ t, shown ("Terms: " ++ n) = .ok t
  /-- The table of blocks has names and terms as they are, if escaping works for them, -/
  blocks : (blockTable q).shown = .ok (plainBlockTable q) ↔
    ∀ b ∈ q.blocks, shown (escape b.name) = .ok b.name ∧
      shown (escape (" | ".intercalate b.terms)) = .ok (" | ".intercalate b.terms)
  /-- and is never an error. -/
  blocks_shown : ∃ t, (blockTable q).shown = .ok t

/-- **Tables show texts as they are** but for names in titles: escaped texts are, and only titles
are not escaped. -/
theorem tables_verbatim (is : List Item) (title : Option String) (showMissing : Bool)
    (s : TermStats) (q : Query) : ShowsTexts is title showMissing s q where
  escaped := Console.exists_shown_escape
  items := shown_itemTable_iff is title showMissing
  items_shown := exists_shown_itemTable_iff is title showMissing
  terms := shown_termTable_iff s
  terms_shown := exists_shown_termTable_iff s
  title_tagged _ := tag?_eq_none_of_shown_termTitle
  statistics := shown_statistics_iff q s
  statistics_shown := exists_shown_statistics_iff q s
  blocks := shown_blockTable_iff q
  blocks_shown := exists_shown_blockTable q

/-- A record with tags in its texts, some of them not closed. -/
def taggedItem : Item where
  record :=
    { entryType := "misc"
      citeKey := "[/k]"
      fields := [("title", "On [a [b] {c}"), ("year", "[#1]")] }
  outcome := .partialMatch
  names := ["[old]"]
  hits := [("[old]", { title := ["[a"] })]
  missing := ["[/x]"]

/-- A query whose second term looks like the end of a tag. -/
def taggedQuery : Query where
  blocks := [{ name := "A", terms := ["[a", "[/b]"] }, { name := "[old]", terms := ["x\\y"] }]
  operators := [.and]

/-- The counts of this term. -/
def taggedTerm : TermStats :=
  .aggregate none [[("A", { title := ["[/b]"] })]]

/-- All these texts are shown as they are. -/
theorem taggedTables_verbatim :
    (itemTable [taggedItem] (some "Matched") true).shown =
        .ok (plainItemTable [taggedItem] (some "Matched") true) ∧
      (statistics taggedQuery taggedTerm).mapM Table.shown =
        .ok (plainStatistics taggedQuery taggedTerm) ∧
      (blockTable taggedQuery).shown = .ok (plainBlockTable taggedQuery) := by
  have h := tables_verbatim [taggedItem] (some "Matched") true taggedTerm taggedQuery
  refine ⟨h.items.mpr ⟨?_, by decide +kernel⟩, h.statistics.mpr (by decide +kernel),
    h.blocks.mpr (by decide +kernel)⟩
  rintro t ⟨⟩
  rfl

/-- Statistics of blocks that are named by a tag, and by one that closes nothing. -/
def taggedBlocks : TermStats :=
  .aggregate none [[("[old]", { title := ["ar"] }), ("[/x]", { title := ["ar"] })]]

/-- **A title loses the name of a block**, or is an error, where escaping would work. -/
theorem taggedBlocks_titles :
    (termTable taggedBlocks "[old]").shown =
        .ok { plainTermTable taggedBlocks "[old]" with title := some "Terms: " } ∧
      (termTable taggedBlocks "[/x]").shown = .error ⟨7, "[/x]"⟩ ∧
      shown (escape "[old]") = .ok "[old]" ∧ shown (escape "[/x]") = .ok "[/x]" := by
  decide +kernel

end Report

end CiteSieve
