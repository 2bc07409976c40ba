import CiteSieve.Proofs.Json.RoundTrip
import CiteSieve.Query.Saved

/-!
# Saved queries are loaded as they were

A query is saved as a document that holds everything it consists of (`Query.ofDocument_toJson`),
and the document is read back as it was written. So loading gives the query that was saved, from
the text as from its bytes (`Query.load_save`), whether it is consistent or not.
-/

namespace CiteSieve

/-! ## Decoding undoes encoding -/

theorem Json.decodeElements_map {α : Type} {encode : α → Json}
    {decode : Json → Except Json.Mismatch α} (h : ∀ a, decode (encode a) = .ok a) :
    ∀ (index : Nat) (as : List α), Json.decodeElements decode index (as.map encode) = .ok as
  | _, [] => rfl
  | index, a :: as => by
    rw [List.map_cons, Json.decodeElements, h, Json.decodeElements_map h (index + 1) as]
    rfl

theorem Json.toList_map {α : Type} (encode : α → Json) {decode : Json → Except Json.Mismatch α}
    (h : ∀ a, decode (encode a) = .ok a) (as : List α) :
    Json.toList decode (.arr (as.map encode)) = .ok as :=
  Json.decodeElements_map h 0 as

@[simp] theorem Json.within_ok {α : Type} (s : Json.Step) (a : α) :
    Json.within s (.ok a) = .ok a := rfl

/-- Taking in a member leaves the others as they are. -/
theorem Json.foldMembers_cons {α : Type} {take : α → String → Json → Except Json.Mismatch α}
    {start : α} {key : String} {v : Json} (next : α) (h : take start key v = .ok next)
    (ms : List (String × Json)) :
    Json.foldMembers take start (.obj ((key, v) :: ms)) =
      Json.foldMembers take next (.obj ms) := by
  simp only [Json.foldMembers, List.foldlM, h]
  rfl

theorem Block.ofJson_toJson (b : Block) : Block.ofJson b.toJson = .ok b := by
  have hterms : Json.toList Json.toText (.arr (b.terms.map Json.str)) = .ok b.terms :=
    Json.toList_map Json.str (fun _ => rfl) b.terms
  have htake : Block.takeMember { name := b.name } "terms" (.arr (b.terms.map Json.str)) =
      .ok { name := b.name, terms := b.terms } := by
    simp [Block.takeMember, hterms, Except.map]
  have hmembers : Json.foldMembers Block.takeMember { name := "" } b.toJson = .ok b := by
    unfold Block.toJson
    rw [Json.foldMembers_cons { name := b.name } rfl, Json.foldMembers_cons _ htake,
      Json.foldMembers_cons { name := b.name, terms := b.terms, isRegex := b.isRegex }
        rfl,
      Json.foldMembers_cons { b with id := newBlockId } rfl,
      Json.foldMembers_cons b rfl]
    rfl
  unfold Block.ofJson
  rw [hmembers]
  rfl

theorem Operator.ofJson_toJson (o : Operator) : Operator.ofJson o.toJson = .ok o := by
  cases o <;> rfl

theorem Selection.ofJson_toJson (s : Selection) : Selection.ofJson s.toJson = .ok s := rfl

/-- **The document of a query holds all of it.** -/
theorem Query.ofJson_toJson (q : Query) : Query.ofJson q.toJson = .ok q := by
  have hblocks := Json.toList_map Block.toJson Block.ofJson_toJson q.blocks
  have hoperators := Json.toList_map Operator.toJson Operator.ofJson_toJson q.operators
  have htakeBlocks : Query.takeMember {} "blocks" (.arr (q.blocks.map Block.toJson)) =
      .ok { blocks := q.blocks } := by
    simp [Query.takeMember, hblocks, Except.map]
  have htakeOperators : Query.takeMember { blocks := q.blocks } "operators"
      (.arr (q.operators.map Operator.toJson)) =
      .ok { blocks := q.blocks, operators := q.operators } := by
    simp [Query.takeMember, hoperators, Except.map]
  unfold Query.ofJson Query.toJson
  rw [Json.foldMembers_cons _ htakeBlocks, Json.foldMembers_cons _ htakeOperators,
    Json.foldMembers_cons { q with searchFields := {} } rfl,
    Json.foldMembers_cons q rfl]
  rfl

theorem Query.ofDocument_toJson (q : Query) : Query.ofDocument q.toJson = .ok q := by
  have h := Query.ofJson_toJson q
  unfold Query.toJson at h ⊢
  simp only [Query.ofDocument, h]
  rfl

/-! ## Loading undoes saving -/

theorem Block.plain_toJson (b : Block) : Json.Plain b.toJson := by
  refine .obj (by show List.Nodup ["name", "terms", "isRegex", "exclude", "id"]; decide) ?_
  intro m hm
  simp only [List.mem_cons, List.not_mem_nil, or_false] at hm
  rcases hm with rfl | rfl | rfl | rfl | rfl
  · exact .str b.name
  · refine .arr fun v hv => ?_
    obtain ⟨t, -, rfl⟩ := List.mem_map.mp hv
    exact .str t
  · exact .bool b.isRegex
  · exact .bool b.exclude
  · exact .str b.id

theorem Query.plain_toJson (q : Query) : Json.Plain q.toJson := by
  refine .obj (by
    show List.Nodup ["blocks", "operators", "caseInsensitive", "searchFields"]
    decide) ?_
  intro m hm
  simp only [List.mem_cons, List.not_mem_nil, or_false] at hm
  rcases hm with rfl | rfl | rfl | rfl
  · refine .arr fun v hv => ?_
    obtain ⟨b, -, rfl⟩ := List.mem_map.mp hv
    exact Block.plain_toJson b
  · refine .arr fun v hv => ?_
    obtain ⟨o, -, rfl⟩ := List.mem_map.mp hv
    exact .str o.name
  · exact .bool q.caseInsensitive
  · refine .obj (by show List.Nodup ["title", "abstract", "keywords"]; decide) fun m hm => ?_
    obtain ⟨f, -, rfl⟩ := List.mem_map.mp hm
    exact .bool (q.searchFields.selects f)

theorem Query.ofText_save (q : Query) : Query.ofText q.save = .ok q := by
  unfold Query.ofText Query.save
  rw [Json.parse_print (Query.plain_toJson q)]
  exact Query.ofDocument_toJson q

/-- The bytes of a text are read as the text. -/
theorem Json.parseBytes_toUTF8 (text : String) :
    Json.parseBytes text.toUTF8 = (Json.parse text).mapError .flaw := by
  have h : Text.decodeUtf8 text.toUTF8 = .ok text := by
    have hvalid : text.toUTF8.IsValidUTF8 := text.isValidUTF8
    unfold Text.decodeUtf8 Text.ofUtf8? String.fromUTF8?
    rw [dif_pos hvalid]
    rfl
  rw [Json.parseBytes, h]

/-- **A saved query is loaded as it was**, identifiers included, from its text and from its bytes,
under any name. -/
theorem Query.load_save (q : Query) (source : String) :
    Query.load q.save source = .ok q ∧ Query.loadBytes q.save.toUTF8 source = .ok q := by
  constructor
  · unfold Query.load
    rw [Query.ofText_save]
    rfl
  · unfold Query.loadBytes
    rw [Json.parseBytes_toUTF8, Query.save, Json.parse_print (Query.plain_toJson q)]
    show (Query.ofDocument q.toJson).mapError _ = _
    rw [Query.ofDocument_toJson]
    rfl

end CiteSieve
