import CiteSieve.Proofs.Highlight.Segments
import CiteSieve.Proofs.Markup.Reader

/-!
# Reading a painted text back

Each run of a painted text is written as tokens that hold no markup of their own, so a reader finds
just these tokens again, whatever the text and the names of the blocks look like.

* `Segment.tokens`: the tokens of a run.
* `paint_decodes`: the text and its spans are read back from the markup.
-/

namespace CiteSieve

/-! ## Runs along spans -/

/-- The span with what the text reads there. -/
def Span.reading (text : String) (s : Span) : Span :=
  { s with text := Text.slice text s.start s.stop }

/-- What spans read does not matter for the runs along them. -/
theorem segmentsFrom_reading (text : String) (ss : List Span) : ∀ pos,
    segmentsFrom text pos (ss.map (Span.reading text)) = segmentsFrom text pos ss := by
  induction ss with
  | nil => exact fun _ => rfl
  | cons s ss ih =>
    intro pos
    rw [List.map_cons, segmentsFrom_cons, segmentsFrom_cons, ih]
    rfl

/-- The runs along ordered ranges of a text make it up. -/
theorem flatMap_segments {text : String} {ss : List Span}
    (hin : ∀ s ∈ ss, s.start < s.stop ∧ s.stop ≤ text.length)
    (hbefore : ss.Pairwise Span.IsBefore) :
    (segments text ss).flatMap (fun r => r.text.toList) = text.toList := by
  have hstand : Span.StandFrom text 0 (ss.map (Span.reading text)) := by
    refine .of_pairwise (Nat.zero_le _) (fun s _ => Nat.zero_le s.start) ?_
      (List.pairwise_map.mpr hbefore)
    refine List.forall_mem_map.mpr fun s hs => ?_
    exact ⟨(hin s hs).1, (hin s hs).2, rfl⟩
  rw [segments, ← segmentsFrom_reading, flatMap_segmentsFrom hstand, List.drop_zero]

/-! ## Tokens of runs -/

namespace Markup

/-- The characters of a text as they are written. -/
def charTokens (text : String) : List Token :=
  (text.toList.flatMap escapeChar).map .char

/-- The tokens of a run. -/
def tokensOf (s : Segment) : List Token :=
  match s.blockName with
  | none => charTokens s.text
  | some name => .opening (name.toList.flatMap escapeChar) :: charTokens s.text ++ [.closing]

theorem flatMap_written_charTokens (tag : List Char) (text : String) :
    (charTokens text).flatMap (Token.written tag) = (escape text).toList := by
  rw [charTokens, List.flatMap_map, escape, String.toList_ofList]
  exact List.flatMap_singleton' _

theorem isQuiet_of_mem_charTokens {text : String} : ∀ t ∈ charTokens text, t.IsQuiet :=
  List.forall_mem_map.mpr isDelimiter_of_mem_escape

theorem filterMap_char?_charTokens (text : String) :
    (charTokens text).filterMap Token.char? = text.toList.flatMap escapeChar := by
  rw [charTokens, List.filterMap_map]
  exact List.filterMap_some

/-- A run is written as its tokens. -/
theorem toList_ofSegment (tag : String) : ∀ s : Segment,
    (ofSegment tag s).toList = (tokensOf s).flatMap (Token.written tag.toList)
  | ⟨text, none⟩ => (flatMap_written_charTokens _ text).symm
  | ⟨text, some name⟩ => by
    simp only [ofSegment, tokensOf, List.cons_append, List.flatMap_cons, List.flatMap_append,
      flatMap_written_charTokens, List.flatMap_nil, Token.written, openingHead, closingTag, escape,
      String.toList_append, String.toList_ofList, List.append_assoc, List.append_nil]
    rfl

/-- The tokens of a run hold no markup of their own. -/
theorem isQuiet_of_mem_tokensOf : ∀ {s : Segment}, ∀ t ∈ tokensOf s, t.IsQuiet
  | ⟨_, none⟩, t, ht => isQuiet_of_mem_charTokens t ht
  | ⟨text, some name⟩, t, ht => by
    rcases List.mem_cons.mp ht with rfl | ht
    · exact isDelimiter_of_mem_escape
    · rcases List.mem_append.mp ht with ht | ht
      · exact isQuiet_of_mem_charTokens t ht
      · rw [List.mem_singleton.mp ht]
        trivial

theorem isQuiet_of_mem_runs {runs : List Segment} : ∀ t ∈ runs.flatMap tokensOf, t.IsQuiet := by
  intro t ht
  obtain ⟨s, -, hs⟩ := List.mem_flatMap.mp ht
  exact isQuiet_of_mem_tokensOf t hs

/-- Without its tags a run is its text, escaped. -/
theorem filterMap_char?_tokensOf : ∀ s : Segment,
    (tokensOf s).filterMap Token.char? = s.text.toList.flatMap escapeChar
  | ⟨text, none⟩ => filterMap_char?_charTokens text
  | ⟨text, some name⟩ => by
    rw [tokensOf]
    dsimp only
    rw [List.cons_append, List.filterMap_cons_none rfl, List.filterMap_append,
      filterMap_char?_charTokens, List.filterMap_cons_none rfl, List.filterMap_nil, List.append_nil]

/-- A run that belongs to no block is no element. -/
theorem elementsFrom_gap (text : String) (a b : Nat) (ts : List Token) :
    elementsFrom none ((gap text a b).flatMap tokensOf ++ ts) = elementsFrom none ts := by
  unfold gap
  split
  · rw [List.flatMap_singleton]
    exact elementsFrom_chars _ ts
  · rfl

/-- **Each span is an element** with the name of its block and its part of the text. -/
theorem elementsFrom_segmentsFrom (text : String) (ss : List Span) : ∀ pos,
    elementsFrom none ((segmentsFrom text pos ss).flatMap tokensOf) =
      some (ss.map fun s => (s.blockName, Text.slice text s.start s.stop)) := by
  induction ss with
  | nil =>
    intro pos
    rw [segmentsFrom_nil, ← List.append_nil (List.flatMap _ _), elementsFrom_gap]
    rfl
  | cons s ss ih =>
    intro pos
    rw [segmentsFrom_cons, List.flatMap_append, elementsFrom_gap, List.flatMap_cons, tokensOf]
    dsimp only
    rw [List.cons_append, List.cons_append, List.append_assoc, List.singleton_append, elementsFrom,
      charTokens, elementsFrom_within, ih, List.nil_append, unescape_escape, unescape_escape,
      String.ofList_toList, String.ofList_toList, Option.map_some, List.map_cons]

/-! ## Painted texts -/

/-- The tokens of a painted text are those of its runs. -/
theorem read_paint (text tag : String) (ss : List Span) :
    read tag (paint text ss tag) = (segments text ss).flatMap tokensOf := by
  have hpaint : (paint text ss tag).toList =
      ((segments text ss).flatMap tokensOf).flatMap (Token.written tag.toList) := by
    rw [paint, String.toList_join, List.flatMap_map, List.flatMap_assoc]
    exact congrArg (List.flatMap · _) (funext (toList_ofSegment tag))
  rw [read, hpaint]
  exact tokens_written _ isQuiet_of_mem_runs

/-- **A painted text is read back from its markup**, whatever it, the names of the blocks and the
name of the tag look like. The tokens of the markup make it up, and nothing in them makes a tag but
the tags that they are. Without tags and with references replaced the markup is the text; its tags
open and close one element for each span, in order, with the name of the block of the span as its
label and the part of the text between its positions as its text. -/
theorem paint_decodes (text tag : String) {ss : List Span}
    (hin : ∀ s ∈ ss, s.start < s.stop ∧ s.stop ≤ text.length)
    (hbefore : ss.Pairwise Span.IsBefore) :
    ((read tag (paint text ss tag)).flatMap (Token.written tag.toList) =
        (paint text ss tag).toList ∧
      ∀ t ∈ read tag (paint text ss tag), t.IsQuiet) ∧
    plainText (read tag (paint text ss tag)) = text ∧
    elements (read tag (paint text ss tag)) =
      some (ss.map fun s => (s.blockName, Text.slice text s.start s.stop)) := by
  refine ⟨⟨written_tokens _ _, ?_⟩, ?_, ?_⟩
  · rw [read_paint]
    exact isQuiet_of_mem_runs
  · have hplain : ((segments text ss).flatMap tokensOf).filterMap Token.char? =
        text.toList.flatMap escapeChar := by
      rw [List.filterMap_flatMap, ← flatMap_segments hin hbefore, List.flatMap_assoc]
      exact congrArg (List.flatMap · _) (funext filterMap_char?_tokensOf)
    rw [read_paint, plainText, hplain, unescape_escape, String.ofList_toList]
  · rw [read_paint]
    exact elementsFrom_segmentsFrom text ss 0

/-- Spans of blocks whose names look like labels, references and tags; one reads something else than
the text does. -/
def lookalikeSpans : List Span :=
  [⟨0, 6, "\" data-block=\"", "<mark>"⟩, ⟨6, 11, "&lt;</mark>", "?"⟩]

theorem paint_decodes_lookalikes :
    (∀ s ∈ lookalikeSpans, s.start < s.stop ∧ s.stop ≤ "<mark>&amp;</mark>".length) ∧
    lookalikeSpans.Pairwise Span.IsBefore ∧
    plainText (read "mark" (paint "<mark>&amp;</mark>" lookalikeSpans "mark")) =
      "<mark>&amp;</mark>" ∧
    elements (read "mark" (paint "<mark>&amp;</mark>" lookalikeSpans "mark")) =
      some [("\" data-block=\"", "<mark>"), ("&lt;</mark>", "&amp;")] := by
  have hin : ∀ s ∈ lookalikeSpans, s.start < s.stop ∧ s.stop ≤ "<mark>&amp;</mark>".length := by
    decide
  have hbefore : lookalikeSpans.Pairwise Span.IsBefore :=
    List.pairwise_pair.mpr ⟨by decide, by decide⟩
  obtain ⟨-, htext, helements⟩ := paint_decodes "<mark>&amp;</mark>" "mark" hin hbefore
  exact ⟨hin, hbefore, htext, helements⟩

end Markup

end CiteSieve
