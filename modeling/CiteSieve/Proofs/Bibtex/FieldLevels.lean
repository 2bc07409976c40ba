import CiteSieve.Proofs.Bibtex.Found
import CiteSieve.Proofs.Bibtex.Levels
import CiteSieve.Proofs.Bibtex.Local

/-!
# Where the fields of an entry stand

Two readers go over the body of an entry. The search for the closing brace knows its level; the
reader of fields knows none, and where it cannot read a value it goes on within it. Both agree on
what a value with its delimiters takes up, unless it holds a backslash or is quoted and holds
braces; and what the reader of fields passes over is no matter as long as it is level text. Where
they disagree, text of a value can become a field.

* `ReadValue.levelText`: the values on which both agree.
* `levelText_take_of_reached`: a run of the reader of fields, level as long as both agree.
* `fields_at_level`: the fields of an entry that is closed, and when their keys stand at its own
  level.
* `slippedText_not_at_level`: a field from within the value of another one.
-/

namespace CiteSieve.Bibtex

/-! ## Values -/

theorem levelText_of_all {cs : List Char}
    (h : ∀ c ∈ cs, isPlain c = true ∧ c ≠ '\\' ∧ c ≠ '"') : LevelText cs := by
  induction cs with
  | nil => exact .nil
  | cons c cs ih =>
    obtain ⟨⟨hc, hb, hq⟩, hcs⟩ := List.forall_mem_cons.mp h
    exact .plain hc hb hq (ih hcs)

theorem levelText_of_words {cs : List Char} (h : ∀ c ∈ cs, Text.isWord c = true) :
    LevelText cs :=
  levelText_of_all fun c hc =>
    ⟨isPlain_of_isWord (h c hc), Text.ne_of_isWord (h c hc) (by decide),
      Text.ne_of_isWord (h c hc) (by decide)⟩

theorem levelText_of_separators {cs : List Char} (h : ∀ c ∈ cs, IsSeparator c) :
    LevelText cs := by
  refine levelText_of_all fun c hc => ?_
  obtain hblank | rfl | rfl := h c hc
  · have hne : ∀ m, Text.isBlank m = false → c ≠ m := by
      rintro m hm rfl
      rw [hblank] at hm
      cases hm
    exact ⟨isPlain_of_ne (hne _ (by decide)) (hne _ (by decide)), hne _ (by decide),
      hne _ (by decide)⟩
  · decide
  · decide

theorem NestedText.of_group {g : List Char} (hg : GroupText g) : NestedText g := by
  induction hg with
  | nil => exact .nil
  | plain hc hb _ ih => exact .plain hc hb ih
  | escaped _ _ ih => exact .escaped ih

theorem NestedText.of_value {v : List Char} (hv : ValueText v) : NestedText v := by
  induction hv with
  | nil => exact .nil
  | plain hc hb _ ih => exact .plain hc hb ih
  | escaped _ ih => exact .escaped ih
  | group hg _ ih => exact .group (.of_group hg) ih

theorem QuotedText.of_all {v : List Char} (hplain : v.all isPlain = true) (hq : '"' ∉ v)
    (hb : '\\' ∉ v) : QuotedText v := by
  induction v with
  | nil => exact .nil
  | cons c v ih =>
    rw [List.all_cons, Bool.and_eq_true] at hplain
    exact .plain (ne_of_isPlain hplain.1).1 (List.ne_of_not_mem_cons hq).symm
      (List.ne_of_not_mem_cons hb).symm
      (ih hplain.2 (List.not_mem_of_not_mem_cons hq) (List.not_mem_of_not_mem_cons hb))

/-- The value with its delimiters may be another one to the search for the closing brace: it holds
a backslash, or it is quoted and holds braces. -/
def MayDiffer (v : List Char) : Prop :=
  '\\' ∈ v ∨ (v.head? = some '"' ∧ v.all isPlain = false)

instance (v : List Char) : Decidable (MayDiffer v) :=
  inferInstanceAs (Decidable (_ ∨ _))

/-- **A value is as level as the entry**, unless it may differ. -/
theorem ReadValue.levelText {v : List Char} (hv : ReadValue v) (h : ¬ MayDiffer v) :
    LevelText v := by
  obtain ⟨hb, hquoted⟩ := not_or.mp h
  cases hv with
  | @quoted w hv =>
    have hw : '\\' ∉ w := fun hmem =>
      hb (List.mem_append_left _ (List.mem_cons_of_mem _ hmem))
    have hplain : w.all isPlain = true := by
      refine Bool.of_not_eq_false fun hall => hquoted ⟨rfl, ?_⟩
      rw [List.all_append, List.all_cons, hall, Bool.and_false, Bool.false_and]
    exact .quoted (.of_all hplain (hv hw) hw) .nil
  | @braced w hv =>
    have hw : '\\' ∉ w := fun hmem =>
      hb (List.mem_append_left _ (List.mem_cons_of_mem _ hmem))
    exact .group (.of_value (hv hw)) .nil
  | number _ hv =>
    exact levelText_of_all fun c hc =>
      ⟨isPlain_of_isDigit (hv c hc), ne_of_isDigit (hv c hc) (by decide),
        ne_of_isDigit (hv c hc) (by decide)⟩

/-! ## The way to a field -/

/-- A field, and what is passed over to reach it behind the field before it. -/
structure Reached where
  passed : List Char
  field : FieldMatch
  deriving DecidableEq, Repr

/-- The fields of `cs`, which stands at the offset `start`, and what is passed over to reach them,
which is `passed` so far; at most `fuel` steps. -/
def reachedFrom : (fuel start : Nat) → (passed cs : List Char) → List Reached
  | fuel + 1, start, passed, c :: cs =>
    if Text.isWord c then
      let key := c :: cs.takeWhile Text.isWord
      let after := cs.dropWhile Text.isWord
      match assigned? after with
      | some (v, rest) =>
        ⟨passed, ⟨start, key, v⟩⟩ ::
          reachedFrom fuel (start + (1 + cs.length - rest.length)) [] rest
      | none => reachedFrom fuel (start + key.length) (passed ++ key) after
    else reachedFrom fuel (start + 1) (passed ++ [c]) cs
  | _, _, _, _ => []

/-- The fields of a text, and what is passed over to reach them. -/
def reached (cs : List Char) : List Reached :=
  reachedFrom cs.length 0 [] cs

/-- The search for the closing brace is at one level before and behind what is passed over to reach
the field, and before and behind its value. Of most values that need not be asked. -/
structure Reached.Agrees (r : Reached) : Prop where
  passed : LevelText r.passed
  value : MayDiffer r.field.value → LevelText r.field.value

instance (r : Reached) : Decidable r.Agrees :=
  decidable_of_iff (LevelText r.passed ∧ (MayDiffer r.field.value → LevelText r.field.value))
    ⟨fun h => ⟨h.1, h.2⟩, fun h => ⟨h.1, h.2⟩⟩

theorem map_field_reachedFrom (fuel start : Nat) (passed cs : List Char) :
    (reachedFrom fuel start passed cs).map Reached.field = fieldMatchesFrom fuel start cs := by
  fun_induction reachedFrom fuel start passed cs with
  | case1 fuel start passed c cs hword key after v rest hassigned ih =>
    rw [fieldMatchesFrom, if_pos hword]
    simp only [after] at hassigned
    simp only [hassigned, List.map_cons, ih]
    rfl
  | case2 fuel start passed c cs hword key after hassigned ih =>
    rw [fieldMatchesFrom, if_pos hword]
    simp only [after] at hassigned
    simp only [hassigned, ih]
    rfl
  | case3 fuel start passed c cs hword ih =>
    rw [fieldMatchesFrom, if_neg hword, ih]
  | case4 fuel start passed cs hne =>
    rw [List.map_nil]
    cases fuel with
    | zero => rfl
    | succ fuel =>
      cases cs with
      | nil => rfl
      | cons c cs => exact absurd rfl (hne fuel c cs rfl)

theorem fieldMatches_eq (cs : List Char) : fieldMatches cs = (reached cs).map Reached.field :=
  (map_field_reachedFrom _ _ _ cs).symm

/-- **The parts of a field** that has been found, and what is left behind it. -/
theorem split_of_assigned? {c : Char} {cs v rest : List Char} (hword : Text.isWord c = true)
    (h : assigned? (cs.dropWhile Text.isWord) = some (v, rest)) :
    ∃ sep tail, c :: cs = (c :: cs.takeWhile Text.isWord) ++ (sep ++ (v ++ (tail ++ rest))) ∧
      ReadValue v ∧ LevelText (c :: cs.takeWhile Text.isWord) ∧ LevelText sep ∧
      LevelText tail := by
  obtain ⟨hread, sep, tail, hsplit, hsep, htail⟩ := assigned?_spec h
  refine ⟨sep, tail, ?_, hread, levelText_of_words ?_, levelText_of_separators hsep,
    levelText_of_separators htail⟩
  · rw [← hsplit, List.cons_append, List.takeWhile_append_dropWhile]
  · exact List.forall_mem_cons.mpr ⟨hword, fun d hd => of_mem_takeWhile hd⟩

/-- **A key stands at its offset.** -/
theorem key_isPrefix_of_mem {text : List Char} (fuel start : Nat) (cs : List Char)
    (hcs : text.drop start = cs) :
    ∀ m ∈ fieldMatchesFrom fuel start cs, m.key <+: text.drop m.start := by
  fun_induction fieldMatchesFrom fuel start cs with
  | case1 fuel start c cs hword key after v rest hassigned ih =>
    obtain ⟨sep, tail, hsplit, -⟩ := split_of_assigned? hword hassigned
    refine List.forall_mem_cons.mpr ⟨⟨after, ?_⟩, ih ?_⟩
    · rw [hcs]
      exact congrArg (c :: ·) List.takeWhile_append_dropWhile
    · have hrest : rest <:+ c :: cs := by
        rw [hsplit, ← List.append_assoc, ← List.append_assoc, ← List.append_assoc]
        exact List.suffix_append _ _
      have hlen : 1 + cs.length - rest.length = (c :: cs).length - rest.length := by
        rw [List.length_cons, Nat.add_comm]
      rw [hlen, ← List.drop_drop, hcs]
      exact (List.suffix_iff_eq_drop.mp hrest).symm
  | case2 fuel start c cs hword key after hassigned ih =>
    refine ih ?_
    have hsplit : c :: cs = key ++ after := congrArg (c :: ·) List.takeWhile_append_dropWhile.symm
    rw [← List.drop_drop, hcs, hsplit, List.drop_left]
  | case3 fuel start c cs hword ih =>
    refine ih ?_
    rw [← List.drop_drop, hcs, List.drop_succ_cons, List.drop_zero]
  | case4 => exact fun m hm => absurd hm List.not_mem_nil

/-- **A run of the reader of fields.** From the own level of the entry on, what is read up to a
field is level text as long as both readers agree. -/
theorem levelText_take_of_reachedFrom {text : List Char} {r : Reached} {after : List Reached}
    (hpassed : LevelText r.passed) (fuel start : Nat) (passed cs : List Char) :
    ∀ pre, text = pre ++ passed ++ cs → start = (pre ++ passed).length → LevelText pre →
      ∀ before, reachedFrom fuel start passed cs = before ++ r :: after →
        (∀ r' ∈ before, r'.Agrees) → LevelText (text.take r.field.start) := by
  fun_induction reachedFrom fuel start passed cs with
  | case1 fuel start passed c cs hword key behind v rest hassigned ih =>
    intro pre htext hstart hpre before hr hbefore
    cases before with
    | nil =>
      obtain ⟨rfl, -⟩ := List.cons.inj hr
      rw [htext, hstart, List.take_left]
      exact hpre.append hpassed
    | cons b before =>
      obtain ⟨rfl, hnext⟩ := List.cons.inj hr
      obtain ⟨hb, hbefore⟩ := List.forall_mem_cons.mp hbefore
      obtain ⟨sep, tail, hsplit, hread, hkey, hsep, htail⟩ := split_of_assigned? hword hassigned
      have hv : LevelText v := by
        by_cases hdiffer : MayDiffer v
        · exact hb.value hdiffer
        · exact hread.levelText hdiffer
      -- The field as a whole is passed at the entry's own level.
      have hpre' : LevelText (pre ++ passed ++ (key ++ (sep ++ (v ++ tail)))) :=
        (hpre.append hb.passed).append (hkey.append (hsep.append (hv.append htail)))
      refine ih _ ?_ ?_ hpre' before hnext hbefore
      · rw [htext, hsplit]
        simp only [key, List.append_assoc, List.append_nil]
      · have hlen := congrArg List.length hsplit
        simp only [List.length_cons, List.length_append, key, List.append_nil] at hlen hstart ⊢
        omega
  | case2 fuel start passed c cs hword key behind hassigned ih =>
    intro pre htext hstart hpre
    have hsplit : c :: cs = key ++ behind :=
      congrArg (c :: ·) List.takeWhile_append_dropWhile.symm
    refine ih pre ?_ ?_ hpre
    · rw [htext, hsplit]
      simp only [List.append_assoc]
    · rw [hstart, ← List.append_assoc]
      exact List.length_append.symm
  | case3 fuel start passed c cs hword ih =>
    intro pre htext hstart hpre
    refine ih pre ?_ ?_ hpre
    · rw [htext]
      simp only [List.append_assoc, List.singleton_append]
    · simp only [hstart, List.length_append, List.length_singleton, Nat.add_assoc]
  | case4 =>
    intro _ _ _ _ before hr
    exact absurd hr.symm (List.append_ne_nil_of_right_ne_nil _ (List.cons_ne_nil r after))

/-! ## The fields of an entry -/

/-- **Where the fields of a body stand** that begins at `start` and is closed: the closing brace is
visited at the entry's own level; every key stands at its offset; and that offset is visited at the
own level exactly if what stands before it in the body is level text, as it is if both readers agree
on all that they have passed before. -/
structure FieldsStand (text : List Char) (start : Nat) (body : List Char) : Prop where
  closed : text[start + body.length]? = some '\x7d' ∧
    Visits text start (start + body.length) .top
  fields : fieldMatches body = (reached body).map Reached.field
  key : ∀ m ∈ fieldMatches body, m.key ≠ [] ∧ m.key <+: text.drop (start + m.start)
  visited_iff : ∀ m ∈ fieldMatches body,
    Visits text start (start + m.start) .top ↔ LevelText (body.take m.start)
  visited : ∀ before r after, reached body = before ++ r :: after → LevelText r.passed →
    (∀ r' ∈ before, r'.Agrees) → Visits text start (start + r.field.start) .top

theorem lt_length_of_mem_fieldMatches {body : List Char} {m : FieldMatch}
    (hm : m ∈ fieldMatches body) : m.start < body.length := by
  have hkey := key_isPrefix_of_mem body.length 0 body List.drop_zero m hm
  refine Nat.lt_of_not_le fun hle => (fieldMatchesFrom_spec _ 0 body m hm).key_ne ?_
  rw [List.drop_eq_nil_of_le hle] at hkey
  exact List.prefix_nil.mp hkey

/-- The fields stand in the body of an entry as in a text of its own. -/
theorem fieldsStand {text body behind : List Char} {start : Nat}
    (h : closeChunk 0 false (text.drop start) = some (body, behind)) :
    FieldsStand text start body := by
  have hsplit : text.drop start = body ++ '\x7d' :: behind := eq_of_closeChunk h
  have hend := chunkEnd?_eq_some h
  have hlen := congrArg List.length hsplit
  rw [List.length_drop, List.length_append, List.length_cons] at hlen
  have hvisited : ∀ m ∈ fieldMatches body,
      (Visits text start (start + m.start) .top ↔ LevelText (body.take m.start)) := by
    intro m hm
    have hlt := lt_length_of_mem_fieldMatches hm
    have hslice : Text.sliceChars text start (start + m.start) = body.take m.start := by
      rw [Text.sliceChars, List.drop_take, Nat.add_sub_cancel_left, hsplit,
        List.take_append_of_le_length (Nat.le_of_lt hlt)]
    rw [visits_top_iff (by omega), hslice]
    exact and_iff_right (Nat.le_add_right _ _)
  refine ⟨chunkEnd?_eq_some_iff.mp hend, fieldMatches_eq body, fun m hm => ?_, hvisited, ?_⟩
  · refine ⟨(fieldMatchesFrom_spec _ 0 body m hm).key_ne, ?_⟩
    have hkey := key_isPrefix_of_mem body.length 0 body List.drop_zero m hm
    rw [← List.drop_drop, hsplit,
      List.drop_append_of_le_length (Nat.le_of_lt (lt_length_of_mem_fieldMatches hm))]
    exact hkey.trans (List.prefix_append _ _)
  · intro before r after hr hpassed hbefore
    have hm : r.field ∈ fieldMatches body := by
      rw [fieldMatches_eq, hr]
      exact List.mem_map_of_mem (List.mem_append_right _ List.mem_cons_self)
    exact (hvisited r.field hm).mpr (levelText_take_of_reachedFrom hpassed body.length 0 [] body []
      rfl rfl .nil before hr hbefore)

/-- **The fields of an entry that is closed** come from its body, and stand there at the entry's own
level as long as the reader of fields and the search for the closing brace agree on what they pass
over and on the values. Then no text of a value becomes a field. -/
theorem fields_at_level {text : String} {e : Entry} (he : e ∈ (scan text).entries)
    (hclosed : e.isClosedIn text.toList = true) :
    ∃ h start body, header? (text.toList.drop e.start) = some (h, text.toList.drop start) ∧
      closeChunk 0 false (text.toList.drop start) = some (body, text.toList.drop e.stop) ∧
      e.record = h.record body ∧ FieldsStand text.toList start body ∧
      ((∀ r ∈ reached body, r.Agrees) → ∀ f ∈ e.record.fields, ∃ m ∈ fieldMatches body,
        m.entry = f ∧ Visits text.toList start (start + m.start) .top) := by
  obtain ⟨h, rest, hh, hends, hrecord⟩ := (scanning_scan text).accounts.header e he
  have hrest : text.toList.drop (offsetOf text.toList rest) = rest :=
    (lt_offsetOf_of_header hh).2.2
  obtain ⟨⟨body, behind⟩, hclose⟩ := Option.isSome_iff_exists.mp
    (closeChunk_of_isClosedIn hclosed hh)
  rw [← hrest] at hh hclose
  have hend := chunkEnd?_eq_some hclose
  have hsplit : text.toList.drop (offsetOf text.toList rest) = body ++ '\x7d' :: behind :=
    eq_of_closeChunk hclose
  have hbody : Text.sliceChars text.toList (offsetOf text.toList rest)
      (bodyStop text.toList (offsetOf text.toList rest)) = body := by
    rw [bodyStop, hend, Option.getD_some]
    exact sliceChars_add_length hsplit
  have hbehind : behind = text.toList.drop e.stop := by
    rw [(hends.closed _ hend).2, ← List.drop_drop, drop_add_length hsplit, List.drop_succ_cons,
      List.drop_zero]
  rw [hbody] at hrecord
  have hstand := fieldsStand hclose
  refine ⟨h, _, body, hh, hbehind ▸ hclose, hrecord, hstand, fun hagree f hf => ?_⟩
  rw [hrecord] at hf
  obtain ⟨m, hm, rfl⟩ := List.mem_map.mp (Assoc.mem_of_mem_ofList hf)
  refine ⟨m, hm, rfl, ?_⟩
  rw [hstand.fields] at hm
  obtain ⟨r, hr, rfl⟩ := List.mem_map.mp hm
  obtain ⟨before, after, hsplit'⟩ := List.append_of_mem hr
  refine hstand.visited before r after hsplit' (hagree r hr).passed fun r' hr' => hagree r' ?_
  rw [hsplit']
  exact List.mem_append_left _ hr'

/-- A value that is nested too deep to be read, one in quotes that hide a quote and hold braces, and
one that holds a group and hides a brace. -/
def deepText : String :=
  "@misc\x7bk, title = \x7bOn \x7b\x7bTeX\x7d\x7d\x7d, year = 1984, note = \"a \\\" \x7bx\x7d\",\n" ++
    " key = \x7ba \x7bb\x7d \\\x7d c\x7d\x7d."

def deepEntry : Entry :=
  ⟨0, 83, ⟨"misc", "k", [("year", "1984"), ("note", "a \\\" \x7bx\x7d"),
    ("key", "a \x7bb\x7d \\\x7d c")]⟩⟩

theorem deepEntry_at_level :
    deepEntry ∈ (scan deepText).entries ∧ deepEntry.isClosedIn deepText.toList = true ∧
      ∃ start body, (∀ r ∈ reached body, r.Agrees) ∧
        ∀ f ∈ deepEntry.record.fields, ∃ m ∈ fieldMatches body,
          m.entry = f ∧ Visits deepText.toList start (start + m.start) .top := by
  have he : deepEntry ∈ (scan deepText).entries := by
    have hscan : (scan deepText).entries = [deepEntry] := by decide +kernel
    rw [hscan]
    exact List.mem_singleton_self _
  have hclosed : deepEntry.isClosedIn deepText.toList = true := by decide +kernel
  obtain ⟨h, start, body, hh, hbody, -, -, hfields⟩ := fields_at_level he hclosed
  have hheader : header? (deepText.toList.drop deepEntry.start) =
      some (⟨['m', 'i', 's', 'c'], ['k']⟩, deepText.toList.drop 8) := by
    decide +kernel
  have hstart : deepText.toList.drop start = deepText.toList.drop 8 :=
    congrArg Prod.snd (Option.some.inj (hh.symm.trans hheader))
  rw [hstart] at hbody
  have hagree : ((closeChunk 0 false (deepText.toList.drop 8)).all fun found =>
      (reached found.1).all fun r => decide r.Agrees) = true := by
    decide +kernel
  rw [hbody, Option.all_some, List.all_eq_true] at hagree
  have hagrees : ∀ r ∈ reached body, r.Agrees := fun r hr => of_decide_eq_true (hagree r hr)
  exact ⟨he, hclosed, start, body, hagrees, hfields hagrees⟩

/-- A brace that is hidden within a group of a value: to the reader of fields, which knows no hidden
braces there, it closes the group, and the value ends too soon. -/
def slippedText : String :=
  "@article\x7bk, year = \x7b2020\x7d, title = \x7bOn \x7ba\\\x7db\x7d, year = 1999 and later\x7d\x7d"

def slippedBody : List Char :=
  " year = \x7b2020\x7d, title = \x7bOn \x7ba\\\x7db\x7d, year = 1999 and later\x7d".toList

/-- The year of the entry is taken from within its title. -/
theorem slippedText_not_at_level :
    (scan slippedText).entries =
        [⟨0, 70, ⟨"article", "k", [("year", "1999"), ("title", "On \x7ba\\\x7db")]⟩⟩] ∧
      closeChunk 0 false (slippedText.toList.drop 11) = some (slippedBody, []) ∧
      fieldMatches slippedBody = [⟨1, "year".toList, "\x7b2020\x7d".toList⟩,
        ⟨16, "title".toList, "\x7bOn \x7ba\\\x7db\x7d".toList⟩, ⟨36, "year".toList, "1999".toList⟩] ∧
      Visits slippedText.toList 11 (11 + 36) ⟨1, false⟩ ∧
      ¬ Visits slippedText.toList 11 (11 + 36) .top := by
  have hlength : 11 + 36 ≤ slippedText.toList.length := by decide +kernel
  refine ⟨by decide +kernel, by decide +kernel, by decide +kernel, ?_, ?_⟩
  · rw [visits_iff hlength]
    decide +kernel
  · rw [visits_iff hlength]
    decide +kernel

end CiteSieve.Bibtex
