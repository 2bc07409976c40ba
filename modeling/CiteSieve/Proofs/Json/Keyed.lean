import CiteSieve.Json.Bytes
import CiteSieve.Proofs.Results

/-!
# Documents repeat no key

What is read from a text has each key of an object once, at every depth: of a repeated key the
reader keeps the last value. So the members of an object that was read are a map.

* `keyed_parse`, `keyed_parseBytes`: this holds of every document that can be read.
-/

namespace CiteSieve.Json

/-- No object of the document repeats a key. -/
inductive Keyed : Json → Prop
  | null : Keyed .null
  | bool (b : Bool) : Keyed (.bool b)
  | int (i : Int) : Keyed (.int i)
  | decimal (m e : Int) : Keyed (.decimal m e)
  | str (s : String) : Keyed (.str s)
  | arr {vs : List Json} (h : ∀ v ∈ vs, Keyed v) : Keyed (.arr vs)
  | obj {ms : List (String × Json)} (hk : (Assoc.keys ms).Nodup) (h : ∀ m ∈ ms, Keyed m.2) :
      Keyed (.obj ms)

theorem Keyed.of_mem {vs : List Json} (h : Keyed (.arr vs)) : ∀ v ∈ vs, Keyed v := by
  cases h with
  | arr h => exact h

theorem Keyed.nodup {ms : List (String × Json)} (h : Keyed (.obj ms)) :
    (Assoc.keys ms).Nodup := by
  cases h with
  | obj hk _ => exact hk

theorem Keyed.of_mem_members {ms : List (String × Json)} (h : Keyed (.obj ms)) :
    ∀ m ∈ ms, Keyed m.2 := by
  cases h with
  | obj _ h => exact h

/-! ## Words and numbers -/

theorem readWord_eq_ok {letters cs rest : List Char} {v w : Json}
    (h : readWord letters v cs = .ok (w, rest)) : w = v := by
  unfold readWord at h
  split at h
  · cases h
    rfl
  · split at h <;> cases h

theorem keyed_number {negative : Bool} {whole : List Char} {fraction : Option (List Char)}
    {exponent : Option Int} {v : Json} (h : number negative whole fraction exponent = .ok v) :
    Keyed v := by
  unfold number at h
  generalize (if negative then -1 else 1 : Int) = sign at h
  dsimp only at h
  split at h
  · cases h
    exact .int _
  · split at h
    · cases h
      exact .decimal _ _
    · cases h

theorem keyed_readNumber {cs rest : List Char} {v : Json} (h : readNumber cs = .ok (v, rest)) :
    Keyed v := by
  unfold readNumber at h
  obtain ⟨whole, -, h⟩ := Except.bind_eq_ok h
  obtain ⟨fraction, -, h⟩ := Except.bind_eq_ok h
  obtain ⟨exponent, -, h⟩ := Except.bind_eq_ok h
  obtain ⟨w, hw, h⟩ := Except.bind_eq_ok h
  cases h
  exact keyed_number hw

/-! ## Values -/

mutual

theorem keyed_readValue : ∀ {fuel : Nat} {cs rest : List Char} {v : Json},
    readValue fuel cs = .ok (v, rest) → Keyed v
  | 0, _, _, _, h => by
    rw [readValue] at h
    cases h
  | fuel + 1, cs, rest, v, h => by
    rw [readValue] at h
    split at h
    · cases h
    · split at h
      · obtain ⟨s, -, he⟩ := Except.map_eq_ok h
        cases he
        exact .str s.1
      split at h
      · exact keyed_readObject h
      split at h
      · exact keyed_readArray h
      split at h
      · rw [readWord_eq_ok h]
        exact .null
      split at h
      · rw [readWord_eq_ok h]
        exact .bool true
      split at h
      · rw [readWord_eq_ok h]
        exact .bool false
      split at h
      · exact keyed_readNumber h
      · cases h

theorem keyed_readArray : ∀ {fuel : Nat} {cs rest : List Char} {v : Json},
    readArray fuel cs = .ok (v, rest) → Keyed v
  | 0, _, _, _, h => by
    rw [readArray] at h
    cases h
  | fuel + 1, cs, rest, v, h => by
    rw [readArray] at h
    split at h
    · cases h
    · split at h
      · cases h
        exact .arr fun v hv => absurd hv List.not_mem_nil
      · obtain ⟨vs, hvs, he⟩ := Except.map_eq_ok h
        cases he
        exact .arr (keyed_readElements hvs)

theorem keyed_readElements : ∀ {fuel : Nat} {cs rest : List Char} {vs : List Json},
    readElements fuel cs = .ok (vs, rest) → ∀ v ∈ vs, Keyed v
  | 0, _, _, _, h => by
    rw [readElements] at h
    cases h
  | fuel + 1, cs, rest, vs, h => by
    rw [readElements] at h
    obtain ⟨first, hfirst, h⟩ := Except.bind_eq_ok h
    have hv : Keyed first.1 := keyed_readValue hfirst
    dsimp only at h
    split at h
    · cases h
    · split at h
      · obtain ⟨more, hmore, h⟩ := Except.bind_eq_ok h
        cases h
        exact List.forall_mem_cons.mpr ⟨hv, keyed_readElements hmore⟩
      · split at h
        · cases h
          exact List.forall_mem_singleton.mpr hv
        · cases h

theorem keyed_readObject : ∀ {fuel : Nat} {cs rest : List Char} {v : Json},
    readObject fuel cs = .ok (v, rest) → Keyed v
  | 0, _, _, _, h => by
    rw [readObject] at h
    cases h
  | fuel + 1, cs, rest, v, h => by
    rw [readObject] at h
    split at h
    · cases h
    · split at h
      · cases h
        exact .obj List.nodup_nil fun m hm => absurd hm List.not_mem_nil
      · obtain ⟨ms, hms, he⟩ := Except.map_eq_ok h
        cases he
        have hmembers := keyed_readMembers hms
        exact .obj (Assoc.nodup_keys_ofList ms.1)
          fun m hm => hmembers m (Assoc.mem_of_mem_ofList hm)

theorem keyed_readMembers : ∀ {fuel : Nat} {cs rest : List Char} {ms : List (String × Json)},
    readMembers fuel cs = .ok (ms, rest) → ∀ m ∈ ms, Keyed m.2
  | 0, _, _, _, h => by
    rw [readMembers] at h
    cases h
  | fuel + 1, cs, rest, ms, h => by
    rw [readMembers] at h
    -- Behind the key and the colon stand a value and what follows it, whichever way they are left.
    have hbehind : ∀ {key : String} {after : List Char},
        (do
          let (v, rest) ← readValue fuel after
          match skipBlanks rest with
          | [] => .error .truncated
          | c :: rest =>
            if c = ',' then do
              let (ms, rest) ← readMembers fuel rest
              .ok ((key, v) :: ms, rest)
            else if c = '\x7d' then .ok ([(key, v)], rest)
            else .error .malformed : Except Flaw (List (String × Json) × List Char)) =
          .ok (ms, rest) → ∀ m ∈ ms, Keyed m.2 := by
      intro key after h
      obtain ⟨first, hfirst, h⟩ := Except.bind_eq_ok h
      have hv : Keyed first.1 := keyed_readValue hfirst
      dsimp only at h
      split at h
      · cases h
      · split at h
        · obtain ⟨more, hmore, h⟩ := Except.bind_eq_ok h
          cases h
          exact List.forall_mem_cons.mpr ⟨hv, keyed_readMembers hmore⟩
        · split at h
          · cases h
            exact List.forall_mem_singleton.mpr hv
          · cases h
    split at h
    · cases h
    · split at h
      · obtain ⟨key, -, h⟩ := Except.bind_eq_ok h
        dsimp only at h
        split at h
        · cases h
        · split at h
          · exact hbehind h
          · cases h
      · cases h

end

/-! ## Documents -/

/-- **A document that is read from a text repeats no key.** -/
theorem keyed_parse {text : String} {v : Json} (h : parse text = .ok v) : Keyed v := by
  unfold parse parseChars at h
  obtain ⟨found, hfound, h⟩ := Except.bind_eq_ok h
  dsimp only at h
  split at h
  · cases h
    exact keyed_readValue hfound
  · cases h

/-- A document is read from bytes only if they are the bytes of its text. -/
theorem keyed_parseBytes {bytes : ByteArray} {v : Json} (h : parseBytes bytes = .ok v) :
    Keyed v := by
  unfold parseBytes at h
  split at h
  · exact keyed_parse (Except.mapError_eq_ok h)
  · dsimp only at h
    split at h <;> cases h

end CiteSieve.Json
