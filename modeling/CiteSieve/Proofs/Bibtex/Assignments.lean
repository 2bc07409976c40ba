import Mathlib.Data.List.Induction
import CiteSieve.Proofs.Bibtex.Found
import CiteSieve.Proofs.Results
import CiteSieve.Proofs.Text.Tidy

/-!
# Reading fields as the grammar has them

The body of an entry as the grammar has it: keys with values in quotes, in braces or of digits, any
blanks around each part, and a comma behind a value or not. Where a value is to end, the reader
cannot go on with it: a backslash takes the character behind it first, and neither quote nor brace
can be anything else there. So every value is read with its own delimiters, and the next key is
looked for behind it.

* `entriesOf_key`, `entriesOf_blanks`: the search for fields, without its fuel and offsets.
* `value?_chars`: a value as the grammar has it is read to its end.
* `Assoc.keys_ofList`, `Assoc.lookup_ofList`: first places and last values.
* `parseFields_assignments`: all fields of such a body are read.
-/

namespace CiteSieve

/-! ## Maps of pairs -/

namespace Assoc

variable {α β : Type} [DecidableEq α]

theorem ofList_concat (kvs : List (α × β)) (kv : α × β) :
    ofList (kvs ++ [kv]) = (ofList kvs).put kv.1 kv.2 :=
  List.foldl_concat ..

/-- The keys of a map in the order of their first appearance. -/
theorem keys_ofList (kvs : List (α × β)) : (ofList kvs).keys = (kvs.map Prod.fst).eraseDups := by
  induction kvs using List.reverseRecOn with
  | nil => rfl
  | append_singleton kvs kv ih =>
    rw [ofList_concat, keys_put, ih, List.map_append, List.map_singleton, eraseDups_concat]

/-- The last value of a key is the one that is found. -/
theorem lookup_ofList (before : List (α × β)) (k : α) (v : β) {behind : List (α × β)}
    (h : ∀ kv ∈ behind, kv.1 ≠ k) : (ofList (before ++ (k, v) :: behind)).lookup k = some v := by
  induction behind using List.reverseRecOn with
  | nil =>
    rw [ofList_concat, lookup_put]
    exact if_pos rfl
  | append_singleton behind kv ih =>
    obtain ⟨hbehind, hkv⟩ := List.forall_mem_append.mp h
    rw [← List.cons_append, ← List.append_assoc, ofList_concat, lookup_put,
      if_neg (Ne.symm (hkv kv (List.mem_singleton_self kv))), ih hbehind]

end Assoc

namespace Bibtex

/-! ## The search without fuel -/

/-- The keys and values that the fields of a text put into a record, in order. -/
def entriesOf (cs : List Char) : List (String × String) :=
  (fieldMatches cs).map FieldMatch.entry

theorem parseFields_eq (cs : List Char) : parseFields cs = Assoc.ofList (entriesOf cs) := rfl

theorem length_le_of_assigned? {cs v rest : List Char} (h : assigned? cs = some (v, rest)) :
    rest.length ≤ cs.length := by
  obtain ⟨-, sep, tail, rfl, -⟩ := assigned?_spec h
  simp only [List.length_append]
  omega

/-- What is found depends neither on the fuel, if there is enough of it, nor on the offset. -/
theorem entries_fieldMatchesFrom : ∀ {n m start start' : Nat} {cs : List Char},
    cs.length ≤ n → cs.length ≤ m →
    (fieldMatchesFrom n start cs).map FieldMatch.entry =
      (fieldMatchesFrom m start' cs).map FieldMatch.entry
  | n, m, _, _, [], _, _ => by rw [fieldMatchesFrom_nil, fieldMatchesFrom_nil]
  | n + 1, m + 1, start, start', c :: cs, hn, hm => by
    rw [List.length_cons, Nat.add_le_add_iff_right] at hn hm
    have hafter : (cs.dropWhile Text.isWord).length ≤ cs.length :=
      (List.dropWhile_suffix _).length_le
    unfold fieldMatchesFrom
    split
    · cases hassigned : assigned? (cs.dropWhile Text.isWord) with
      | some found =>
        obtain ⟨v, rest⟩ := found
        have hrest := length_le_of_assigned? hassigned
        simp only [hassigned, List.map_cons]
        exact congrArg₂ List.cons rfl (entries_fieldMatchesFrom (by omega) (by omega))
      | none =>
        simp only [hassigned]
        exact entries_fieldMatchesFrom (by omega) (by omega)
    · exact entries_fieldMatchesFrom hn hm

theorem entries_eq_entriesOf {n start : Nat} {cs : List Char} (h : cs.length ≤ n) :
    (fieldMatchesFrom n start cs).map FieldMatch.entry = entriesOf cs :=
  entries_fieldMatchesFrom h (Nat.le_refl _)

/-- Blanks before a field are passed over. -/
theorem entriesOf_blanks {blanks : List Char} (h : ∀ c ∈ blanks, Text.isBlank c = true)
    (cs : List Char) : entriesOf (blanks ++ cs) = entriesOf cs := by
  induction blanks with
  | nil => rfl
  | cons c blanks ih =>
    obtain ⟨hc, hblanks⟩ := List.forall_mem_cons.mp h
    have hword := Text.isWord_of_isBlank hc
    rw [← ih hblanks]
    unfold entriesOf fieldMatches
    rw [List.cons_append, List.length_cons, fieldMatchesFrom_skip hword]
    exact entries_eq_entriesOf (Nat.le_refl _)

/-- **A key with a value behind it** is a field, and the search goes on behind the value. -/
theorem entriesOf_key {k : List Char} (hne : k ≠ []) (hk : ∀ c ∈ k, Text.isWord c = true)
    {c : Char} {cs v rest : List Char} (hc : Text.isWord c = false)
    (hassigned : assigned? (c :: cs) = some (v, rest)) :
    entriesOf (k ++ c :: cs) =
      (Text.lower (String.ofList k), String.ofList (stripDelimiters v)) :: entriesOf rest := by
  have hrest := length_le_of_assigned? hassigned
  have hlen : (k ++ c :: cs).length = k.length - 1 + (c :: cs).length + 1 := by
    have := List.length_pos_iff.mpr hne
    rw [List.length_append]
    omega
  unfold entriesOf fieldMatches
  rw [hlen]
  obtain ⟨next, e⟩ := fieldMatchesFrom_key hne hk hc hassigned (k.length - 1 + (c :: cs).length) 0
  rw [e, List.map_cons, entries_eq_entriesOf (by omega)]
  rfl

/-! ## Values -/

/-- A value as the grammar has it. -/
inductive Value where
  | quoted (inside : List Char)
  | braced (inside : List Char)
  | number (digits : List Char)

namespace Value

/-- The characters of a value with its delimiters. -/
def chars : Value → List Char
  | quoted inside => '"' :: inside ++ ['"']
  | braced inside => '\x7b' :: inside ++ ['\x7d']
  | number digits => digits

/-- The text of a value, everything between its delimiters as it stands. -/
def text : Value → String
  | quoted inside => String.ofList inside
  | braced inside => String.ofList inside
  | number digits => String.ofList digits

/-- Digits could go on behind their last one. -/
def isNumber : Value → Bool
  | number _ => true
  | _ => false

inductive IsGrammatical : Value → Prop
  | quoted {inside : List Char} (h : InQuotes inside) : IsGrammatical (quoted inside)
  | braced {inside : List Char} (h : InBraces inside) : IsGrammatical (braced inside)
  | number {digits : List Char} (hne : digits ≠ []) (h : ∀ c ∈ digits, Text.isDigit c = true) :
      IsGrammatical (number digits)

end Value

theorem stripDelimiters_chars {v : Value} (h : v.IsGrammatical) :
    String.ofList (stripDelimiters v.chars) = v.text := by
  cases h with
  | quoted => exact congrArg String.ofList (stripDelimiters_enclosed (.inr ⟨rfl, rfl⟩) _)
  | braced => exact congrArg String.ofList (stripDelimiters_braced _)
  | number hne h =>
    obtain ⟨c, digits, rfl⟩ := List.exists_cons_of_ne_nil hne
    exact congrArg String.ofList (stripDelimiters_of_isDigit (h c List.mem_cons_self) digits)

/-- **A value is read to its end**, if no further digit stands behind its digits. -/
theorem value?_chars {v : Value} (h : v.IsGrammatical) {tail : List Char}
    (htail : v.isNumber = true → ∀ c ∈ tail.head?, Text.isDigit c = false) :
    value? (v.chars ++ tail) = some (v.chars, tail) := by
  cases h with
  | quoted h =>
    rw [Value.chars, List.cons_append, List.cons_append, List.append_assoc]
    exact value?_quoted h tail
  | braced h =>
    rw [Value.chars, List.cons_append, List.cons_append, List.append_assoc]
    exact value?_braced h tail
  | number hne h =>
    obtain ⟨c, digits, rfl⟩ := List.exists_cons_of_ne_nil hne
    obtain ⟨hc, hdigits⟩ := List.forall_mem_cons.mp h
    rw [Value.chars, List.cons_append, value?, if_neg (ne_of_isDigit hc (by decide)),
      if_neg (ne_of_isDigit hc (by decide)), if_pos hc, List.takeWhile_append_of_pos hdigits,
      List.dropWhile_append_of_pos hdigits]
    cases tail with
    | nil => rw [List.takeWhile_nil, List.dropWhile_nil, List.append_nil]
    | cons d tail =>
      have hd : ¬ Text.isDigit d = true := by simp [htail rfl d rfl]
      rw [List.takeWhile_cons_of_neg hd, List.dropWhile_cons_of_neg hd, List.append_nil]

/-! ## Assignments -/

/-- A key with its value: blanks before the key, around the equals sign and behind the value, and a
comma behind these or none. -/
structure Assignment where
  before : List Char
  key : List Char
  beforeEquals : List Char
  behindEquals : List Char
  value : Value
  behind : List Char
  comma : Bool

namespace Assignment

def chars (a : Assignment) : List Char :=
  a.before ++ (a.key ++ (a.beforeEquals ++ '=' :: (a.behindEquals ++ (a.value.chars ++
    (a.behind ++ if a.comma then [','] else [])))))

/-- The key as it is looked up. -/
def name (a : Assignment) : String :=
  Text.lower (String.ofList a.key)

structure IsGrammatical (a : Assignment) : Prop where
  before : ∀ c ∈ a.before, Text.isBlank c = true
  key_ne : a.key ≠ []
  key_word : ∀ c ∈ a.key, Text.isWord c = true
  beforeEquals : ∀ c ∈ a.beforeEquals, Text.isBlank c = true
  behindEquals : ∀ c ∈ a.behindEquals, Text.isBlank c = true
  value : a.value.IsGrammatical
  behind : ∀ c ∈ a.behind, Text.isBlank c = true

/-- A blank or a comma stands behind the value, if it is of digits. -/
def IsClosed (a : Assignment) : Prop :=
  a.value.isNumber = true → a.behind ≠ [] ∨ a.comma = true

end Assignment

theorem isDigit_of_isBlank {c : Char} (h : Text.isBlank c = true) : Text.isDigit c = false :=
  Text.eq_false_of_isBlank (by decide +kernel) h

/-- The first character of a value is no blank. -/
theorem Value.IsGrammatical.exists_eq_cons {v : Value} (h : v.IsGrammatical) :
    ∃ c cs, v.chars = c :: cs ∧ Text.isBlank c = false := by
  cases h with
  | quoted => exact ⟨_, _, rfl, by decide⟩
  | braced => exact ⟨_, _, rfl, by decide⟩
  | number hne h =>
    obtain ⟨c, digits, rfl⟩ := List.exists_cons_of_ne_nil hne
    refine ⟨c, digits, rfl, Bool.eq_false_iff.mpr fun hblank => ?_⟩
    exact absurd (h c List.mem_cons_self) (by rw [isDigit_of_isBlank hblank]; decide)

namespace Assignment

/-- The text may follow the assignment: blanks aside it begins with no comma, and with no digit if
it could go on there. -/
structure CanPrecede (a : Assignment) (more : List Char) : Prop where
  comma : ∀ rest, more.dropWhile Text.isBlank ≠ ',' :: rest
  digit : a.IsClosed ∨ ∀ c ∈ more.head?, Text.isDigit c = false

/-- What stands behind the value begins with no digit. -/
theorem CanPrecede.head {a : Assignment} (h : a.IsGrammatical) {more : List Char}
    (hmore : a.CanPrecede more) (hnumber : a.value.isNumber = true) :
    ∀ c ∈ (a.behind ++ ((if a.comma then [','] else []) ++ more)).head?,
      Text.isDigit c = false := by
  intro c hc
  cases hbehind : a.behind with
  | cons b behind =>
    rw [hbehind] at hc
    obtain rfl := Option.some.inj hc
    exact isDigit_of_isBlank (h.behind b (by rw [hbehind]; exact List.mem_cons_self))
  | nil =>
    rw [hbehind] at hc
    cases hcomma : a.comma with
    | true =>
      rw [hcomma] at hc
      obtain rfl := Option.some.inj hc
      decide
    | false =>
      rw [hcomma] at hc
      refine hmore.digit.elim (fun hclosed => ?_) fun hdigit => hdigit c hc
      rcases hclosed hnumber with hne | htrue
      · exact absurd hbehind hne
      · exact absurd (hcomma.symm.trans htrue) Bool.false_ne_true

/-- Behind the comma, or where there is none, the search goes on as before the text that follows. -/
theorem CanPrecede.entriesOf_afterComma {a : Assignment} (h : a.IsGrammatical) {more : List Char}
    (hmore : a.CanPrecede more) :
    entriesOf (afterComma (a.behind ++ ((if a.comma then [','] else []) ++ more))) =
      entriesOf more := by
  cases a.comma with
  | true =>
    refine congrArg entriesOf (afterComma_of_comma ?_)
    exact dropWhile_append_of_all h.behind (by decide) more
  | false =>
    have hdrop : (a.behind ++ more).dropWhile Text.isBlank = more.dropWhile Text.isBlank :=
      List.dropWhile_append_of_pos h.behind
    change entriesOf (afterComma (a.behind ++ more)) = entriesOf more
    rw [afterComma_of_ne (fun rest => by rw [hdrop]; exact hmore.comma rest), hdrop]
    conv => rhs; rw [← List.takeWhile_append_dropWhile (p := Text.isBlank) (l := more)]
    exact (entriesOf_blanks (fun c hc => of_mem_takeWhile hc) _).symm

/-- What the equals sign announces is the value, up to the comma. -/
theorem assigned?_chars {a : Assignment} (h : a.IsGrammatical) {tail : List Char}
    (htail : a.value.isNumber = true → ∀ c ∈ tail.head?, Text.isDigit c = false) :
    assigned? (a.beforeEquals ++ '=' :: (a.behindEquals ++ (a.value.chars ++ tail))) =
      some (a.value.chars, afterComma tail) := by
  have hvalue := value?_chars h.value htail
  obtain ⟨c, cs, hcons, hblank⟩ := h.value.exists_eq_cons
  rw [hcons] at hvalue ⊢
  exact assigned?_of_value? _ _ h.beforeEquals h.behindEquals hblank hvalue

/-- **An assignment is read as it stands**, and the search goes on behind it. -/
theorem entriesOf_chars {a : Assignment} (h : a.IsGrammatical) {more : List Char}
    (hmore : a.CanPrecede more) :
    entriesOf (a.chars ++ more) = (a.name, a.value.text) :: entriesOf more := by
  have hassigned := assigned?_chars h (hmore.head h)
  have hafter := hmore.entriesOf_afterComma h
  unfold chars
  simp only [List.append_assoc, List.cons_append]
  generalize a.behind ++ ((if a.comma then [','] else []) ++ more) = tail at hassigned hafter
  -- What follows the key, a blank or the equals sign, is no word character.
  obtain ⟨d, ds, hds, hd⟩ : ∃ d ds, a.beforeEquals ++ '=' :: (a.behindEquals ++
      (a.value.chars ++ tail)) = d :: ds ∧ Text.isWord d = false := by
    cases hbefore : a.beforeEquals with
    | nil => exact ⟨_, _, rfl, by decide⟩
    | cons d ds =>
      refine ⟨d, _, rfl, Text.isWord_of_isBlank (h.beforeEquals d ?_)⟩
      rw [hbefore]
      exact List.mem_cons_self
  rw [hds] at hassigned
  rw [entriesOf_blanks h.before, hds, entriesOf_key h.key_ne h.key_word hd hassigned,
    stripDelimiters_chars h.value, hafter]
  rfl

end Assignment

/-! ## Bodies -/

section Body

variable {as : List Assignment} (h : ∀ a ∈ as, a.IsGrammatical) {blanks : List Char}
  (hblanks : ∀ c ∈ blanks, Text.isBlank c = true)

include h hblanks

/-- Blanks aside, assignments begin with a key. -/
theorem dropWhile_assignments_ne (rest : List Char) :
    (as.flatMap Assignment.chars ++ blanks).dropWhile Text.isBlank ≠ ',' :: rest := by
  cases as with
  | nil =>
    rw [List.flatMap_nil, List.nil_append, ← List.append_nil blanks,
      List.dropWhile_append_of_pos hblanks]
    exact nofun
  | cons a as =>
    have ha := h a List.mem_cons_self
    obtain ⟨k, key, hkey⟩ := List.exists_cons_of_ne_nil ha.key_ne
    have hword : Text.isWord k = true := ha.key_word k (by rw [hkey]; exact List.mem_cons_self)
    rw [List.flatMap_cons, Assignment.chars, hkey]
    simp only [List.append_assoc, List.cons_append]
    rw [dropWhile_append_of_all ha.before (Text.isBlank_of_isWord hword)]
    exact fun heq => Text.ne_of_isWord hword (by decide) (List.cons.inj heq).1

/-- **All assignments are found**, in order. -/
theorem entriesOf_assignments (hclosed : ∀ a ∈ as.dropLast, a.IsClosed) :
    entriesOf (as.flatMap Assignment.chars ++ blanks) = as.map fun a => (a.name, a.value.text) := by
  induction as with
  | nil =>
    rw [List.flatMap_nil, List.nil_append, ← List.append_nil blanks, entriesOf_blanks hblanks]
    rfl
  | cons a as ih =>
    obtain ⟨ha, has⟩ := List.forall_mem_cons.mp h
    have hmore : a.CanPrecede (as.flatMap Assignment.chars ++ blanks) := by
      refine ⟨dropWhile_assignments_ne has hblanks, ?_⟩
      cases as with
      | nil =>
        refine .inr fun c hc => isDigit_of_isBlank (hblanks c ?_)
        exact List.mem_of_mem_head? hc
      | cons b as =>
        rw [List.dropLast_cons_cons] at hclosed
        exact .inl (hclosed a List.mem_cons_self)
    have hclosed' : ∀ b ∈ as.dropLast, b.IsClosed := by
      intro b hb
      cases as with
      | nil => exact absurd hb List.not_mem_nil
      | cons c as =>
        rw [List.dropLast_cons_cons] at hclosed
        exact hclosed b (List.mem_cons_of_mem _ hb)
    rw [List.flatMap_cons, List.append_assoc, Assignment.entriesOf_chars ha hmore,
      ih has hclosed', List.map_cons]

/-- **The grammar of fields is read completely.** Of a body of assignments the record gets just
their keys in lower case, each at its first place, and under each the text of its last value. A
number that is not the last value needs a blank or a comma behind it. -/
theorem parseFields_assignments (hclosed : ∀ a ∈ as.dropLast, a.IsClosed) :
    (parseFields (as.flatMap Assignment.chars ++ blanks)).keys =
        (as.map Assignment.name).eraseDups ∧
      ∀ before a behind, as = before ++ a :: behind → (∀ b ∈ behind, b.name ≠ a.name) →
        (parseFields (as.flatMap Assignment.chars ++ blanks)).lookup a.name =
          some a.value.text := by
  rw [parseFields_eq, entriesOf_assignments h hblanks hclosed]
  constructor
  · rw [Assoc.keys_ofList, List.map_map]
    rfl
  · rintro before a behind rfl hlast
    rw [List.map_append, List.map_cons]
    exact Assoc.lookup_ofList _ _ _ (List.forall_mem_map.mpr hlast)

end Body

/-- A value with a backslash in its group and one behind it. -/
def bracedTitle : Assignment :=
  ⟨[], "tITLE".toList, [' '], [], .braced "\x7bb\\\x7d, c = 1\\\x7d".toList, [' '], true⟩

/-- Two values under one key, the first with an escaped quote; a value without a comma, and a number
without anything behind it. -/
def collidingAssignments : List Assignment :=
  [⟨"\n\t".toList, "Title".toList, [' '], [' '], .quoted "\\\"a\\\" \x7d".toList, [], false⟩,
    ⟨[], "year".toList, [], ['\n'], .number "1999".toList, [' '], false⟩,
    bracedTitle,
    ⟨[], "no_2".toList, [], [], .number "07".toList, [], false⟩]

theorem isGrammatical_collidingAssignments : ∀ a ∈ collidingAssignments, a.IsGrammatical := by
  have hquoted : InQuotes "\\\"a\\\" \x7d".toList :=
    .escaped (.plain (by decide) (by decide) (.escaped (.plain (by decide) (by decide)
      (.plain (by decide) (by decide) .nil))))
  have hbraced : InBraces "\x7bb\\\x7d, c = 1\\\x7d".toList :=
    .group (g := ['b', '\\']) (by decide)
      (.plain (by decide) (by decide) (.plain (by decide) (by decide)
        (.plain (by decide) (by decide) (.plain (by decide) (by decide)
          (.plain (by decide) (by decide) (.plain (by decide) (by decide)
            (.plain (by decide) (by decide) (.escaped .nil))))))))
  simp only [collidingAssignments, List.forall_mem_cons]
  refine ⟨?title, ?year, ?title', ?number, nofun⟩
  case title =>
    exact ⟨by decide, by decide, by decide, by decide, by decide, .quoted hquoted, by decide⟩
  case year =>
    exact ⟨by decide, by decide, by decide, by decide, by decide,
      .number (by decide) (by decide), by decide⟩
  case title' =>
    exact ⟨by decide, by decide, by decide, by decide, by decide, .braced hbraced, by decide⟩
  case number =>
    exact ⟨by decide, by decide, by decide, by decide, by decide,
      .number (by decide) (by decide), by decide⟩

theorem isClosed_collidingAssignments : ∀ a ∈ collidingAssignments.dropLast, a.IsClosed := by
  simp only [collidingAssignments, List.dropLast_cons_cons, List.dropLast_singleton,
    List.forall_mem_cons]
  exact ⟨nofun, fun _ => .inl (by decide), nofun, nofun⟩

/-- The title of the record is the braced one, at the place of the quoted one. -/
theorem parseFields_collidingAssignments :
    (parseFields (collidingAssignments.flatMap Assignment.chars ++ ['\n'])).keys =
        ["title", "year", "no_2"] ∧
      (parseFields (collidingAssignments.flatMap Assignment.chars ++ ['\n'])).lookup "title" =
        some "\x7bb\\\x7d, c = 1\\\x7d" := by
  have hblanks : ∀ c ∈ ['\n'], Text.isBlank c = true := by decide
  obtain ⟨hkeys, hvalues⟩ := parseFields_assignments isGrammatical_collidingAssignments hblanks
    isClosed_collidingAssignments
  constructor
  · rw [hkeys]
    decide +kernel
  · have hname : bracedTitle.name = "title" := by decide +kernel
    rw [← hname]
    exact hvalues (collidingAssignments.take 2) bracedTitle (collidingAssignments.drop 3) rfl
      (by decide +kernel)

end Bibtex

end CiteSieve
