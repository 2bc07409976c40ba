import CiteSieve.Proofs.Json.Records
import CiteSieve.Query.Saved

/-!
# What a document says

A document is a query if it is an object with blocks and operators and everything in it that a
query knows is of its kind (`Json.IsQuery`). It says a query if the query holds what is in it, and
the default for everything that is not (`Query.IsOf`); what a query does not know is ignored.

* `Json.isQuery_iff`: the documents that are queries are those that say some query.
-/

namespace CiteSieve

open Json (Member)

/-! ## Kinds of documents -/

namespace Json

/-- A string. -/
def IsText (v : Json) : Prop :=
  ∃ s, v = .str s

/-- A truth value. -/
def IsTruth (v : Json) : Prop :=
  ∃ b, v = .bool b

/-- An array whose elements all satisfy `p`. -/
def IsListOf (p : Json → Prop) (v : Json) : Prop :=
  ∃ vs, v = .arr vs ∧ ∀ x ∈ vs, p x

/-- An object whose name is a string; its terms, flags and identifier, where it has them, are
strings, truth values and a string. -/
def IsBlock (v : Json) : Prop :=
  ∃ ms, v = .obj ms ∧ Member ms "name" IsText False ∧ Member ms "terms" (IsListOf IsText) True ∧
    Member ms "isRegex" IsTruth True ∧ Member ms "exclude" IsTruth True ∧
    Member ms "id" IsText True

/-- The name of an operator. -/
def IsOperator (v : Json) : Prop :=
  ∃ o : Operator, v = .str o.name

/-- An object whose fields, where it has them, are truth values. -/
def IsSelection (v : Json) : Prop :=
  ∃ ms, v = .obj ms ∧ ∀ f : Field, Member ms f.name IsTruth True

/-- **An object with blocks and operators**; its case flag and its fields, where it has them, are
a truth value and a choice of fields. -/
def IsQuery (v : Json) : Prop :=
  ∃ ms, v = .obj ms ∧ Member ms "blocks" (IsListOf IsBlock) False ∧
    Member ms "operators" (IsListOf IsOperator) False ∧
    Member ms "caseInsensitive" IsTruth True ∧ Member ms "searchFields" IsSelection True

end Json

/-! ## What a document says -/

/-- The object says what the block is; what it does not say is as in a new block. -/
structure Block.IsIn (b : Block) (ms : List (String × Json)) : Prop where
  name : Member ms "name" (· = .str b.name) False
  terms : Member ms "terms" (· = .arr (b.terms.map .str)) (b.terms = [])
  isRegex : Member ms "isRegex" (· = .bool b.isRegex) (b.isRegex = false)
  exclude : Member ms "exclude" (· = .bool b.exclude) (b.exclude = false)
  id : Member ms "id" (· = .str b.id) (b.id = newBlockId)

def Block.IsOf (b : Block) (v : Json) : Prop :=
  ∃ ms, v = .obj ms ∧ b.IsIn ms

/-- The object says which fields are chosen; those that it does not name are. -/
def Selection.IsIn (s : Selection) (ms : List (String × Json)) : Prop :=
  ∀ f, Member ms f.name (· = .bool (s.selects f)) (s.selects f = true)

def Selection.IsOf (s : Selection) (v : Json) : Prop :=
  ∃ ms, v = .obj ms ∧ s.IsIn ms

/-- The object says what the query is: its blocks and operators one by one, and its flags unless
they are as in a new query. -/
structure Query.IsIn (q : Query) (ms : List (String × Json)) : Prop where
  blocks : Member ms "blocks"
    (fun v => ∃ vs, v = .arr vs ∧ List.Forall₂ (fun v b => Block.IsOf b v) vs q.blocks) False
  operators : Member ms "operators" (· = .arr (q.operators.map Operator.toJson)) False
  caseInsensitive : Member ms "caseInsensitive" (· = .bool q.caseInsensitive)
    (q.caseInsensitive = true)
  searchFields : Member ms "searchFields" (Selection.IsOf q.searchFields) (q.searchFields = {})

def Query.IsOf (q : Query) (v : Json) : Prop :=
  ∃ ms, v = .obj ms ∧ q.IsIn ms

/-! ## The documents that are queries -/

namespace Json

theorem isListOf_iff {β : Type} {p : Json → Prop} {R : Json → β → Prop}
    (h : ∀ {v}, p v ↔ ∃ y, R v y) {v : Json} :
    IsListOf p v ↔ ∃ ys vs, v = .arr vs ∧ List.Forall₂ R vs ys := by
  simp only [IsListOf, h, forall_mem_exists_iff]
  exact ⟨fun ⟨vs, hv, ys, hys⟩ => ⟨ys, vs, hv, hys⟩, fun ⟨ys, vs, hv, hys⟩ => ⟨vs, hv, ys, hys⟩⟩

variable {v : Json}

theorem isBlock_iff : v.IsBlock ↔ ∃ b : Block, b.IsOf v := by
  have hlist : ∀ v, IsListOf IsText v ↔ ∃ ss : List String, v = .arr (ss.map .str) := by
    intro v
    rw [isListOf_iff (p := IsText) (R := fun v s => v = .str s) Iff.rfl]
    exact exists_congr fun ss => exists_arr_iff_map
  constructor
  · rintro ⟨ms, rfl, hname, hterms, hregex, hexclude, hid⟩
    obtain ⟨name, hname⟩ := required_exists_iff.mp hname
    obtain ⟨terms, hterms⟩ :=
      (member_exists_iff []).mp ((Member.congr (fun v _ => hlist v) Iff.rfl).mp hterms)
    obtain ⟨isRegex, hregex⟩ := (member_exists_iff false).mp hregex
    obtain ⟨exclude, hexclude⟩ := (member_exists_iff false).mp hexclude
    obtain ⟨id, hid⟩ := (member_exists_iff newBlockId).mp hid
    exact ⟨⟨name, terms, isRegex, exclude, id⟩, ms, rfl, hname, hterms, hregex, hexclude, hid⟩
  · rintro ⟨b, ms, rfl, hname, hterms, hregex, hexclude, hid⟩
    refine ⟨ms, rfl, required_exists_iff.mpr ⟨b.name, hname⟩, ?_,
      (member_exists_iff false).mpr ⟨b.isRegex, hregex⟩,
      (member_exists_iff false).mpr ⟨b.exclude, hexclude⟩,
      (member_exists_iff newBlockId).mpr ⟨b.id, hid⟩⟩
    exact (Member.congr (fun v _ => hlist v) Iff.rfl).mpr
      ((member_exists_iff []).mpr ⟨b.terms, hterms⟩)

theorem isSelection_iff : v.IsSelection ↔ ∃ s : Selection, s.IsOf v := by
  constructor
  · rintro ⟨ms, rfl, h⟩
    have hfield : ∀ f : Field, ∃ b, Member ms f.name (· = .bool b) (b = true) :=
      fun f => (member_exists_iff true).mp (h f)
    choose p hp using hfield
    exact ⟨.ofPred p, ms, rfl, fun f => by cases f <;> exact hp _⟩
  · rintro ⟨s, ms, rfl, h⟩
    exact ⟨ms, rfl, fun f => (member_exists_iff true).mpr ⟨s.selects f, h f⟩⟩

/-- **The documents that are queries** are those that say some query. -/
theorem isQuery_iff : v.IsQuery ↔ ∃ q : Query, q.IsOf v := by
  have hblocks : ∀ v, IsListOf IsBlock v ↔
      ∃ bs vs, v = .arr vs ∧ List.Forall₂ (fun v b => Block.IsOf b v) vs bs :=
    fun v => isListOf_iff isBlock_iff
  have hoperators : ∀ v, IsListOf IsOperator v ↔
      ∃ os : List Operator, v = .arr (os.map Operator.toJson) := by
    intro v
    rw [isListOf_iff (p := IsOperator) (R := fun v (o : Operator) => v = .str o.name) Iff.rfl]
    exact exists_congr fun os => exists_arr_iff_map
  have hfields : ∀ v, IsSelection v ↔ ∃ s : Selection, s.IsOf v := fun v => isSelection_iff
  constructor
  · rintro ⟨ms, rfl, hb, ho, hc, hs⟩
    obtain ⟨blocks, hb⟩ :=
      required_exists_iff.mp ((Member.congr (fun v _ => hblocks v) Iff.rfl).mp hb)
    obtain ⟨operators, ho⟩ :=
      required_exists_iff.mp ((Member.congr (fun v _ => hoperators v) Iff.rfl).mp ho)
    obtain ⟨caseInsensitive, hc⟩ := (member_exists_iff true).mp hc
    obtain ⟨searchFields, hs⟩ :=
      (member_exists_iff {}).mp ((Member.congr (fun v _ => hfields v) Iff.rfl).mp hs)
    exact ⟨⟨blocks, operators, caseInsensitive, searchFields⟩, ms, rfl, hb, ho, hc, hs⟩
  · rintro ⟨q, ms, rfl, hb, ho, hc, hs⟩
    refine ⟨ms, rfl, ?_, ?_, (member_exists_iff true).mpr ⟨q.caseInsensitive, hc⟩, ?_⟩
    · exact (Member.congr (fun v _ => hblocks v) Iff.rfl).mpr
        (required_exists_iff.mpr ⟨q.blocks, hb⟩)
    · exact (Member.congr (fun v _ => hoperators v) Iff.rfl).mpr
        (required_exists_iff.mpr ⟨q.operators, ho⟩)
    · exact (Member.congr (fun v _ => hfields v) Iff.rfl).mpr
        ((member_exists_iff {}).mpr ⟨q.searchFields, hs⟩)

end Json

end CiteSieve
