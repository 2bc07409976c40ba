import CiteSieve.Proofs.Json.Strings

/-!
# Documents are read as they were written

A document without numbers whose objects repeat no key (`Plain`) is read back as it was written,
line ends and indentation included. The reader has a bound on its steps; twice the length of the
written value is always enough (`readValue_printValue`).

* `parse_print`: reading a written document gives the document.
-/

namespace CiteSieve.Json

/-- A document without numbers and without repeated keys. -/
inductive Plain : Json → Prop
  | null : Plain .null
  | bool (b : Bool) : Plain (.bool b)
  | str (s : String) : Plain (.str s)
  | arr {vs : List Json} (h : ∀ v ∈ vs, Plain v) : Plain (.arr vs)
  | obj {ms : List (String × Json)} (hk : (Assoc.keys ms).Nodup) (h : ∀ m ∈ ms, Plain m.2) :
      Plain (.obj ms)

/-! ## Blanks -/

theorem skipBlanks_cons {c : Char} (hc : isBlank c = false) (cs : List Char) :
    skipBlanks (c :: cs) = c :: cs :=
  List.dropWhile_cons_of_neg (by simp [hc])

/-- The start of a line is skipped. -/
theorem skipBlanks_newline (depth : Nat) (cs : List Char) :
    skipBlanks (newline depth ++ cs) = skipBlanks cs := by
  have hblank : ∀ c ∈ newline depth, isBlank c = true := by
    intro c hc
    rcases List.mem_cons.mp hc with rfl | hc
    · decide
    · rw [List.eq_of_mem_replicate hc]
      decide
  exact List.dropWhile_append_of_pos hblank

theorem readValue_newline (fuel depth : Nat) (cs : List Char) :
    readValue fuel (newline depth ++ cs) = readValue fuel cs := by
  cases fuel with
  | zero => simp only [readValue]
  | succ n => rw [readValue, readValue, skipBlanks_newline]

/-! ## One value -/

/-- The value is read back at any depth, whatever follows it. -/
def ReadsBack (v : Json) : Prop :=
  ∀ {n : Nat} (depth : Nat) (tail : List Char), 2 * (printValue depth v).length ≤ n →
    readValue n (printValue depth v ++ tail) = .ok (v, tail)

theorem readsBack_null : ReadsBack .null := by
  intro fuel depth tail hn
  obtain ⟨m, rfl⟩ : ∃ m, fuel = m + 1 := ⟨fuel - 1, by simp [printValue] at hn; omega⟩
  show readValue (m + 1) ('n' :: 'u' :: 'l' :: 'l' :: tail) = _
  rw [readValue, skipBlanks_cons (by decide)]
  rfl

theorem readsBack_bool (b : Bool) : ReadsBack (.bool b) := by
  intro fuel depth tail hn
  cases b with
  | true =>
    obtain ⟨m, rfl⟩ : ∃ m, fuel = m + 1 := ⟨fuel - 1, by simp [printValue] at hn; omega⟩
    show readValue (m + 1) ('t' :: 'r' :: 'u' :: 'e' :: tail) = _
    rw [readValue, skipBlanks_cons (by decide)]
    rfl
  | false =>
    obtain ⟨m, rfl⟩ : ∃ m, fuel = m + 1 := ⟨fuel - 1, by simp [printValue] at hn; omega⟩
    show readValue (m + 1) ('f' :: 'a' :: 'l' :: 's' :: 'e' :: tail) = _
    rw [readValue, skipBlanks_cons (by decide)]
    rfl

theorem readsBack_str (s : String) : ReadsBack (.str s) := by
  intro fuel depth tail hn
  simp only [printValue, printString, List.length_cons, List.length_append] at hn
  obtain ⟨m, rfl⟩ : ∃ m, fuel = m + 1 := ⟨fuel - 1, by omega⟩
  rw [printValue, printString, List.cons_append, List.append_assoc, readValue,
    skipBlanks_cons (by decide)]
  simp only [if_true, List.singleton_append]
  rw [readString_printed]
  rfl

/-- A written value begins with a character that is no blank and closes no array. -/
theorem printValue_eq_cons {v : Json} (hv : Plain v) (depth : Nat) :
    ∃ c cs, printValue depth v = c :: cs ∧ isBlank c = false ∧ c ≠ ']' := by
  cases hv with
  | null => exact ⟨'n', _, rfl, by decide, by decide⟩
  | bool b =>
    cases b with
    | true => exact ⟨'t', _, rfl, by decide, by decide⟩
    | false => exact ⟨'f', _, rfl, by decide, by decide⟩
  | str s => exact ⟨'"', _, by rw [printValue, printString], by decide, by decide⟩
  | @arr vs _ =>
    cases vs with
    | nil => exact ⟨'[', _, by rw [printValue], by decide, by decide⟩
    | cons v vs => exact ⟨'[', _, by rw [printValue]; rfl, by decide, by decide⟩
  | @obj ms _ _ =>
    cases ms with
    | nil => exact ⟨'\x7b', _, by rw [printValue], by decide, by decide⟩
    | cons m ms => exact ⟨'\x7b', _, by rw [printValue]; rfl, by decide, by decide⟩

/-! ## Arrays -/

theorem readElements_newline (fuel depth : Nat) (cs : List Char) :
    readElements fuel (newline depth ++ cs) = readElements fuel cs := by
  cases fuel with
  | zero => simp only [readElements]
  | succ n => rw [readElements, readElements, readValue_newline]

theorem readElements_last {fuel : Nat} {cs rest tail : List Char} {v : Json}
    (hv : readValue fuel cs = .ok (v, rest)) (hr : skipBlanks rest = ']' :: tail) :
    readElements (fuel + 1) cs = .ok ([v], tail) := by
  rw [readElements, hv]
  simp only [bind, Except.bind, hr]
  rfl

theorem readElements_next {fuel : Nat} {cs rest more tail : List Char} {v : Json} {vs : List Json}
    (hv : readValue fuel cs = .ok (v, rest)) (hr : skipBlanks rest = ',' :: more)
    (hm : readElements fuel more = .ok (vs, tail)) :
    readElements (fuel + 1) cs = .ok (v :: vs, tail) := by
  rw [readElements, hv]
  simp only [bind, Except.bind, hr, if_true, hm]

/-- The elements of a written array are read up to its closing bracket. -/
theorem readElements_printed (depth : Nat) (tail : List Char) : ∀ (v : Json) (vs : List Json),
    (∀ v' ∈ v :: vs, ReadsBack v') → ∀ {n : Nat},
      2 * ((printValue (depth + 1) v).length + (printElements (depth + 1) vs).length) < n →
      readElements n (printValue (depth + 1) v ++ (printElements (depth + 1) vs ++
        (newline depth ++ ']' :: tail))) = .ok (v :: vs, tail)
  | v, [], h, fuel, hn => by
    obtain ⟨m, rfl⟩ : ∃ m, fuel = m + 1 := ⟨fuel - 1, by omega⟩
    have hend : skipBlanks (newline depth ++ ']' :: tail) = ']' :: tail := by
      rw [skipBlanks_newline, skipBlanks_cons (by decide)]
    rw [printElements, List.nil_append]
    exact readElements_last (h v List.mem_cons_self (depth + 1) _ (by omega)) hend
  | v, w :: vs, h, fuel, hn => by
    obtain ⟨m, rfl⟩ : ∃ m, fuel = m + 1 := ⟨fuel - 1, by omega⟩
    simp only [printElements, List.length_append, List.length_cons] at hn
    have hnext := readElements_printed depth tail w vs
      (fun v' hv' => h v' (List.mem_cons_of_mem v hv')) (n := m) (by omega)
    rw [← readElements_newline m (depth + 1)] at hnext
    refine readElements_next (h v List.mem_cons_self (depth + 1) _ (by omega)) ?_ hnext
    simp only [printElements, List.cons_append, List.append_assoc]
    exact skipBlanks_cons (by decide) _

theorem readValue_bracket (fuel : Nat) (cs : List Char) :
    readValue (fuel + 1) ('[' :: cs) = readArray fuel cs := by
  rw [readValue, skipBlanks_cons (by decide)]
  rfl

theorem readArray_of_elements {fuel : Nat} {c : Char} {cs rest tail : List Char} {vs : List Json}
    (hcs : skipBlanks cs = c :: rest) (hc : c ≠ ']')
    (h : readElements fuel (c :: rest) = .ok (vs, tail)) :
    readArray (fuel + 1) cs = .ok (.arr vs, tail) := by
  rw [readArray, hcs]
  simp only [if_neg hc, h]
  rfl

theorem readsBack_arr {vs : List Json} (hp : ∀ v ∈ vs, Plain v) (h : ∀ v ∈ vs, ReadsBack v) :
    ReadsBack (.arr vs) := by
  intro fuel depth tail hn
  cases vs with
  | nil =>
    simp only [printValue, List.length_cons, List.length_nil] at hn
    obtain ⟨m, rfl⟩ : ∃ m, fuel = m + 2 := ⟨fuel - 2, by omega⟩
    rw [printValue, List.cons_append, readValue_bracket, List.singleton_append, readArray,
      skipBlanks_cons (by decide)]
    rfl
  | cons v vs =>
    simp only [printValue, List.length_cons, List.length_append] at hn
    obtain ⟨m, rfl⟩ : ∃ m, fuel = m + 2 := ⟨fuel - 2, by omega⟩
    obtain ⟨c, cs, hc, hblank, hclose⟩ := printValue_eq_cons (hp v List.mem_cons_self) (depth + 1)
    have helements := readElements_printed depth tail v vs h (n := m) (by omega)
    rw [hc, List.cons_append] at helements
    simp only [printValue, List.cons_append, List.append_assoc, List.nil_append]
    rw [readValue_bracket]
    refine readArray_of_elements ?_ hclose helements
    rw [skipBlanks_newline, hc, List.cons_append, skipBlanks_cons hblank]

/-! ## Objects -/

/-- A member of an object: its key in quotes, a colon and its value. -/
def printMember (depth : Nat) (k : String) (v : Json) : List Char :=
  printString k ++ ':' :: ' ' :: printValue depth v

theorem readValue_space (fuel : Nat) (cs : List Char) :
    readValue fuel (' ' :: cs) = readValue fuel cs := by
  have h : skipBlanks (' ' :: cs) = skipBlanks cs := List.dropWhile_cons_of_pos (by decide)
  cases fuel with
  | zero => simp only [readValue]
  | succ n => rw [readValue, readValue, h]

theorem readMembers_newline (fuel depth : Nat) (cs : List Char) :
    readMembers fuel (newline depth ++ cs) = readMembers fuel cs := by
  cases fuel with
  | zero => simp only [readMembers]
  | succ n => rw [readMembers, readMembers, skipBlanks_newline]

/-- Behind a written member comes a comma with further members, or the closing brace. -/
theorem readMembers_printMember {fuel depth : Nat} {k : String} {v : Json} {rest : List Char}
    (hv : readValue fuel (printValue depth v ++ rest) = .ok (v, rest)) :
    readMembers (fuel + 1) (printMember depth k v ++ rest) =
      match skipBlanks rest with
      | [] => .error .truncated
      | c :: rest =>
        if c = ',' then (readMembers fuel rest).map fun (ms, rest) => ((k, v) :: ms, rest)
        else if c = '\x7d' then .ok ([(k, v)], rest)
        else .error .malformed := by
  have hcolon : ∀ cs, skipBlanks (':' :: cs) = ':' :: cs := skipBlanks_cons (by decide)
  unfold printMember printString
  simp only [List.cons_append, List.append_assoc, List.nil_append]
  rw [readMembers, skipBlanks_cons (by decide)]
  simp only [if_true, readString_printed, bind, Except.bind, hcolon, readValue_space, hv]
  cases skipBlanks rest with
  | nil => rfl
  | cons c rest =>
    dsimp only
    split
    · cases readMembers fuel rest <;> rfl
    · rfl

/-- The members of a written object are read up to its closing brace. -/
theorem readMembers_printed (depth : Nat) (tail : List Char) :
    ∀ (k : String) (v : Json) (ms : List (String × Json)),
    ReadsBack v → (∀ m ∈ ms, ReadsBack m.2) → ∀ {n : Nat},
      2 * ((printMember (depth + 1) k v).length + (printMembers (depth + 1) ms).length) < n →
      readMembers n (printMember (depth + 1) k v ++ (printMembers (depth + 1) ms ++
        (newline depth ++ '\x7d' :: tail))) = .ok ((k, v) :: ms, tail)
  | k, v, [], hv, h, fuel, hn => by
    obtain ⟨m, rfl⟩ : ∃ m, fuel = m + 1 := ⟨fuel - 1, by omega⟩
    simp only [printMember, List.length_append, List.length_cons] at hn
    have hend : skipBlanks (newline depth ++ '\x7d' :: tail) = '\x7d' :: tail := by
      rw [skipBlanks_newline, skipBlanks_cons (by decide)]
    rw [printMembers, List.nil_append,
      readMembers_printMember (hv (depth + 1) _ (by omega)), hend]
    rfl
  | k, v, (k', v') :: ms, hv, h, fuel, hn => by
    obtain ⟨m, rfl⟩ : ∃ m, fuel = m + 1 := ⟨fuel - 1, by omega⟩
    simp only [printMembers, printMember, List.length_append, List.length_cons] at hn
    have hnext := readMembers_printed depth tail k' v' ms (h (k', v') List.mem_cons_self)
      (fun m' hm' => h m' (List.mem_cons_of_mem _ hm')) (n := m)
      (by simp only [printMember, List.length_append, List.length_cons]; omega)
    have hcomma : ∀ cs, skipBlanks (',' :: cs) = ',' :: cs := skipBlanks_cons (by decide)
    rw [readMembers_printMember (hv (depth + 1) _ (by omega)), printMembers]
    simp only [List.cons_append, List.append_assoc, hcomma, if_true, readMembers_newline]
    simp only [printMember, List.append_assoc, List.cons_append] at hnext
    rw [hnext]
    rfl

theorem readValue_brace (fuel : Nat) (cs : List Char) :
    readValue (fuel + 1) ('\x7b' :: cs) = readObject fuel cs := by
  rw [readValue, skipBlanks_cons (by decide)]
  rfl

theorem readsBack_obj {ms : List (String × Json)} (hk : (Assoc.keys ms).Nodup)
    (h : ∀ m ∈ ms, ReadsBack m.2) : ReadsBack (.obj ms) := by
  intro fuel depth tail hn
  cases ms with
  | nil =>
    simp only [printValue, List.length_cons, List.length_nil] at hn
    obtain ⟨m, rfl⟩ : ∃ m, fuel = m + 2 := ⟨fuel - 2, by omega⟩
    rw [printValue, List.cons_append, readValue_brace, List.singleton_append, readObject,
      skipBlanks_cons (by decide)]
    rfl
  | cons kv ms =>
    obtain ⟨k, v⟩ := kv
    simp only [printValue, List.length_cons, List.length_append] at hn
    obtain ⟨m, rfl⟩ : ∃ m, fuel = m + 2 := ⟨fuel - 2, by omega⟩
    have hmembers := readMembers_printed depth tail k v ms (h (k, v) List.mem_cons_self)
      (fun m' hm' => h m' (List.mem_cons_of_mem _ hm')) (n := m)
      (by simp only [printMember, List.length_append, List.length_cons]; omega)
    simp only [printMember, printString, List.append_assoc, List.cons_append,
      List.nil_append] at hmembers
    simp only [printValue, printString, List.cons_append, List.append_assoc, List.nil_append]
    rw [readValue_brace, readObject, skipBlanks_newline, skipBlanks_cons (by decide)]
    simp only [if_neg (show ¬ '"' = '\x7d' by decide), hmembers, Except.map,
      Assoc.ofList_of_nodup hk]

/-! ## Documents -/

/-- **A written value is read back**, at any depth and whatever follows it. -/
theorem readValue_printValue {v : Json} (hv : Plain v) : ReadsBack v := by
  induction hv with
  | null => exact readsBack_null
  | bool b => exact readsBack_bool b
  | str s => exact readsBack_str s
  | arr h ih => exact readsBack_arr h ih
  | obj hk _ ih => exact readsBack_obj hk ih

/-- **Reading undoes writing.** -/
theorem parse_print {v : Json} (hv : Plain v) : parse (print v) = .ok v := by
  have h := readValue_printValue hv 0 [] (n := 2 * (printValue 0 v).length + 2) (by omega)
  unfold parse print parseChars
  rw [List.append_nil] at h
  rw [String.toList_ofList, h]
  rfl

end CiteSieve.Json
