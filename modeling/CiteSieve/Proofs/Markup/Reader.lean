import CiteSieve.Markup
import CiteSieve.Regex.Escape
import Mathlib.Data.List.Basic

/-!
# Reading markup

A reader that knows the name of the tag takes markup apart into characters and tags, and forgets
nothing: the tokens that it finds make up the markup. Without its tags, and with each reference
replaced by the character that it stands for, markup is text again; between an opening tag and the
closing tag behind it stands the text of an element.

* `unescape`: references by name and by number; `unescape_escape`: escaping is undone.
* `read`: the tokens; `written_tokens`: they make up what was read.
* `tokens_written`: tokens that hold no markup of their own are read back.
* `plainText`, `elements`: what the tokens say.
-/

namespace CiteSieve.Markup

/-! ## References -/

/-- The characters that can be referred to by name. -/
def names : List (String × Char) :=
  [("amp", '&'), ("lt", '<'), ("gt", '>'), ("quot", '"'), ("apos", '\'')]

/-- The character that digits of the given base refer to. -/
def numbered? (base : Nat) (digits : List Char) : Option Char :=
  if digits ≠ [] ∧ digits.all fun c => ((Regex.hexValue? c).any (· < base)) then
    some (Char.ofNat (Regex.numberOf base digits))
  else none

/-- The character that is referred to between an ampersand and a semicolon. -/
def referent? : List Char → Option Char
  | '#' :: 'x' :: digits => numbered? 16 digits
  | '#' :: digits => numbered? 10 digits
  | name => names.lookup (String.ofList name)

/-- The characters that are meant; `pending` is what has been read behind an ampersand. What turns
out to be no reference means itself. -/
def unescapeFrom : (pending : Option (List Char)) → List Char → List Char
  | none, [] => []
  | some name, [] => '&' :: name
  | none, c :: cs => if c = '&' then unescapeFrom (some []) cs else c :: unescapeFrom none cs
  | some name, c :: cs =>
    if c = ';' then
      match referent? name with
      | some d => d :: unescapeFrom none cs
      | none => '&' :: name ++ ';' :: unescapeFrom none cs
    else if c = '&' then '&' :: name ++ unescapeFrom (some []) cs
    else unescapeFrom (some (name ++ [c])) cs

/-- The text that is meant by an escaped one. -/
def unescape (cs : List Char) : List Char :=
  unescapeFrom none cs

/-- References of all kinds, one that is none, and one that is never closed. -/
example : unescape "&lt;b&#62; &amp;lt; R&D;&x &#x27;&apos".toList = "<b> &lt; R&D;&x '&apos".toList := by
  decide

/-- The character is one of those that make tags. -/
def isDelimiter (c : Char) : Bool :=
  c == '<' || c == '>' || c == '"'

theorem unescapeFrom_name {name : List Char} (h : ∀ c ∈ name, c ≠ ';' ∧ c ≠ '&') :
    ∀ (before cs : List Char),
      unescapeFrom (some before) (name ++ cs) = unescapeFrom (some (before ++ name)) cs := by
  induction name with
  | nil => exact fun before cs => by rw [List.nil_append, List.append_nil]
  | cons c name ih =>
    intro before cs
    obtain ⟨⟨hsemicolon, hampersand⟩, hname⟩ := List.forall_mem_cons.mp h
    rw [List.cons_append, unescapeFrom, if_neg hsemicolon, if_neg hampersand, ih hname,
      List.append_assoc, List.singleton_append]

/-- A reference is read as what it refers to. -/
theorem unescapeFrom_reference {name : List Char} {c : Char}
    (hplain : ∀ c ∈ name, c ≠ ';' ∧ c ≠ '&') (hname : referent? name = some c) (cs : List Char) :
    unescapeFrom none ('&' :: name ++ ';' :: cs) = c :: unescapeFrom none cs := by
  rw [List.cons_append, unescapeFrom, if_pos rfl, unescapeFrom_name hplain, List.nil_append,
    unescapeFrom, if_pos rfl, hname]

/-- **How a character is written:** by a reference to it that makes no tag, or as it is, if it
makes neither tags nor references. -/
theorem escapeChar_spec (c : Char) :
    (∃ name, escapeChar c = '&' :: name ++ [';'] ∧ referent? name = some c ∧
      ∀ d ∈ name, (d ≠ ';' ∧ d ≠ '&') ∧ isDelimiter d = false) ∨
    escapeChar c = [c] ∧ c ≠ '&' ∧ isDelimiter c = false := by
  unfold escapeChar
  split
  · exact .inl ⟨"amp".toList, rfl, by decide, by decide⟩
  · exact .inl ⟨"lt".toList, rfl, by decide, by decide⟩
  · exact .inl ⟨"gt".toList, rfl, by decide, by decide⟩
  · exact .inl ⟨"quot".toList, rfl, by decide, by decide⟩
  · exact .inl ⟨"#x27".toList, rfl, by decide, by decide⟩
  · rename_i hampersand hlt hgt hquote _
    refine .inr ⟨rfl, hampersand, ?_⟩
    simp only [isDelimiter, Bool.or_eq_false_iff, beq_eq_false_iff_ne]
    exact ⟨⟨hlt, hgt⟩, hquote⟩

/-- **Escaping is undone.** -/
theorem unescape_escape (cs : List Char) : unescape (cs.flatMap escapeChar) = cs := by
  unfold unescape
  induction cs with
  | nil => rfl
  | cons c cs ih =>
    rw [List.flatMap_cons]
    rcases escapeChar_spec c with ⟨name, hwritten, hname, hplain⟩ | ⟨hwritten, hc, -⟩
    · rw [hwritten, List.append_assoc, List.singleton_append,
        unescapeFrom_reference (fun d hd => (hplain d hd).1) hname, ih]
    · rw [hwritten, List.singleton_append, unescapeFrom, if_neg hc, ih]

/-- An escaped text makes no tags. -/
theorem isDelimiter_of_mem_escape {cs : List Char} :
    ∀ c ∈ cs.flatMap escapeChar, isDelimiter c = false := by
  intro c hc
  obtain ⟨d, -, hc⟩ := List.mem_flatMap.mp hc
  rcases escapeChar_spec d with ⟨name, hwritten, -, hplain⟩ | ⟨hwritten, -, hd⟩
  · rw [hwritten] at hc
    rcases List.mem_append.mp hc with hc | hc
    · rcases List.mem_cons.mp hc with rfl | hc
      · decide
      · exact (hplain c hc).2
    · rw [List.mem_singleton.mp hc]
      decide
  · rw [hwritten, List.mem_singleton] at hc
    exact hc ▸ hd

/-! ## Tokens -/

/-- A piece of markup. -/
inductive Token where
  | char (c : Char)
  /-- The tag that opens an element, with its label as it is written. -/
  | opening (label : List Char)
  /-- The tag that closes an element. -/
  | closing
  deriving DecidableEq, Repr

/-- What opens an element, up to its label. -/
def openingHead (tag : List Char) : List Char :=
  '<' :: tag ++ " data-block=\"".toList

/-- What closes an element. -/
def closingTag (tag : List Char) : List Char :=
  '<' :: '/' :: tag ++ ['>']

/-- The characters of a token. -/
def Token.written (tag : List Char) : Token → List Char
  | .char c => [c]
  | .opening label => openingHead tag ++ label ++ ['"', '>']
  | .closing => closingTag tag

/-- A token in which nothing makes a tag but the tag that it is. -/
def Token.IsQuiet : Token → Prop
  | .char c => isDelimiter c = false
  | .opening label => ∀ c ∈ label, isDelimiter c = false
  | .closing => True

/-- The opening tag at the start of a text, and the text behind it. Its label ends with the next
quote. -/
def opening? (tag cs : List Char) : Option (Token × List Char) :=
  ((openingHead tag).isPrefixOf? cs).bind fun rest =>
    (['"', '>'].isPrefixOf? (rest.dropWhile (· ≠ '"'))).map fun behind =>
      (.opening (rest.takeWhile (· ≠ '"')), behind)

/-- The tag at the start of a text, and the text behind it. -/
def tag? (tag cs : List Char) : Option (Token × List Char) :=
  match (closingTag tag).isPrefixOf? cs with
  | some behind => some (.closing, behind)
  | none => opening? tag cs

theorem eq_append_of_opening? {tag cs rest : List Char} {t : Token}
    (h : opening? tag cs = some (t, rest)) : cs = t.written tag ++ rest := by
  obtain ⟨behind, hhead, h⟩ := Option.bind_eq_some_iff.mp h
  obtain ⟨rest', hend, h⟩ := Option.map_eq_some_iff.mp h
  cases h
  rw [← List.isPrefixOf?_eq_some_iff_append_eq.mp hhead, Token.written, List.append_assoc,
    List.append_assoc, List.isPrefixOf?_eq_some_iff_append_eq.mp hend, List.takeWhile_append_dropWhile]

/-- A tag is what stands at the start of the text. -/
theorem eq_append_of_tag? {tag cs rest : List Char} {t : Token} (h : tag? tag cs = some (t, rest)) :
    cs = t.written tag ++ rest := by
  unfold tag? at h
  split at h
  · rename_i hclosing
    cases h
    exact (List.isPrefixOf?_eq_some_iff_append_eq.mp hclosing).symm
  · exact eq_append_of_opening? h

theorem length_lt_of_tag? {tag cs rest : List Char} {t : Token} (h : tag? tag cs = some (t, rest)) :
    rest.length < cs.length := by
  have hpos : 0 < (t.written tag).length := by
    cases t <;> exact Nat.zero_lt_succ _
  rw [eq_append_of_tag? h, List.length_append]
  omega

/-- The tokens of markup. -/
def tokens (tag : List Char) : List Char → List Token
  | [] => []
  | c :: cs =>
    match h : tag? tag (c :: cs) with
    | some (t, behind) =>
      have := length_lt_of_tag? h
      t :: tokens tag behind
    | none => .char c :: tokens tag cs
termination_by cs => cs.length
decreasing_by
  · assumption
  · exact Nat.lt_succ_self _

/-- The tokens of markup whose elements have the given name. -/
def read (tag markup : String) : List Token :=
  tokens tag.toList markup.toList

theorem tokens_of_tag? {tag cs rest : List Char} {t : Token} (h : tag? tag cs = some (t, rest)) :
    tokens tag cs = t :: tokens tag rest := by
  cases cs with
  | nil => exact absurd (length_lt_of_tag? h) (Nat.not_lt_zero _)
  | cons c cs =>
    rw [tokens]
    split
    · rename_i h'
      cases h.symm.trans h'
      rfl
    · rename_i h'
      exact absurd (h.symm.trans h') nofun

theorem tokens_of_tag?_none {tag cs : List Char} {c : Char} (h : tag? tag (c :: cs) = none) :
    tokens tag (c :: cs) = .char c :: tokens tag cs := by
  rw [tokens]
  split
  · rename_i h'
    exact absurd (h.symm.trans h') nofun
  · rfl

/-- **Nothing is lost:** the tokens make up what was read, whatever it was. -/
theorem written_tokens (tag cs : List Char) :
    (tokens tag cs).flatMap (Token.written tag) = cs := by
  induction hn : cs.length using Nat.strongRecOn generalizing cs with
  | ind n ih =>
    cases cs with
    | nil => rw [tokens, List.flatMap_nil]
    | cons c cs =>
      cases h : tag? tag (c :: cs) with
      | none =>
        rw [tokens_of_tag?_none h, List.flatMap_cons, ih cs.length (hn ▸ Nat.lt_succ_self _) cs rfl]
        rfl
      | some read =>
        obtain ⟨t, rest⟩ := read
        rw [tokens_of_tag? h, List.flatMap_cons, ih rest.length (hn ▸ length_lt_of_tag? h) rest rfl,
          ← eq_append_of_tag? h]

/-! ## Reading tokens back -/

theorem isPrefixOf?_append (as bs : List Char) : as.isPrefixOf? (as ++ bs) = some bs :=
  List.isPrefixOf?_eq_some_iff_append_eq.mpr rfl

/-- Only an opening bracket begins a tag. -/
theorem tag?_of_ne {tag cs : List Char} {c : Char} (hc : c ≠ '<') : tag? tag (c :: cs) = none := by
  have hprefix : ∀ as, ('<' :: as).isPrefixOf? (c :: cs) = none := by
    intro as
    rw [List.isPrefixOf?, if_neg (by rw [beq_iff_eq]; exact hc.symm)]
  have hopening : opening? tag (c :: cs) = none := by
    rw [opening?, openingHead, List.cons_append, hprefix, Option.bind_none]
  rw [tag?, closingTag, List.cons_append, hprefix]
  exact hopening

/-- Behind an opening bracket a name is not followed by what may follow a slash and the name, as
the slash would go on through all of it. -/
theorem closed_ne_opened : ∀ (tag as bs : List Char), '/' :: tag ++ '>' :: as ≠ tag ++ ' ' :: bs
  | [], _, _, h => absurd (List.cons.inj h).1 (by decide)
  | c :: tag, as, bs, h => by
    obtain ⟨rfl, htail⟩ := List.cons.inj h
    exact closed_ne_opened tag as bs htail

theorem tag?_closing (tag cs : List Char) :
    tag? tag (closingTag tag ++ cs) = some (.closing, cs) := by
  rw [tag?, isPrefixOf?_append]

/-- A label without quotes is read up to its end. -/
theorem tag?_opening (tag : List Char) {label : List Char} (h : '"' ∉ label) (cs : List Char) :
    tag? tag (Token.written tag (.opening label) ++ cs) = some (.opening label, cs) := by
  have hnone : (closingTag tag).isPrefixOf? (Token.written tag (.opening label) ++ cs) = none := by
    rw [Option.eq_none_iff_forall_ne_some]
    intro rest hrest
    have heq := List.isPrefixOf?_eq_some_iff_append_eq.mp hrest
    simp only [closingTag, Token.written, openingHead, List.cons_append, List.append_assoc] at heq
    exact closed_ne_opened tag _ _ (List.cons.inj heq).2
  have hlabel : ∀ c ∈ label, decide (c ≠ '"') = true := fun c hc =>
    decide_eq_true fun he => h (he ▸ hc)
  have htake : (label ++ '"' :: '>' :: cs).takeWhile (· ≠ '"') = label := by
    rw [List.takeWhile_append_of_pos hlabel, List.takeWhile_cons_of_neg (by decide), List.append_nil]
  have hdrop : (label ++ '"' :: '>' :: cs).dropWhile (· ≠ '"') = ['"', '>'] ++ cs := by
    rw [List.dropWhile_append_of_pos hlabel, List.dropWhile_cons_of_neg (by decide)]
    rfl
  have hwritten : Token.written tag (.opening label) ++ cs =
      openingHead tag ++ (label ++ '"' :: '>' :: cs) := by
    simp only [Token.written, List.append_assoc, List.cons_append, List.nil_append]
  rw [tag?, hnone]
  dsimp only
  rw [opening?, hwritten, isPrefixOf?_append, Option.bind_some, hdrop, isPrefixOf?_append, htake]
  rfl

/-- **Quiet tokens are read back.** -/
theorem tokens_written (tag : List Char) {ts : List Token} (h : ∀ t ∈ ts, t.IsQuiet) :
    tokens tag (ts.flatMap (Token.written tag)) = ts := by
  induction ts with
  | nil => rw [List.flatMap_nil, tokens]
  | cons t ts ih =>
    obtain ⟨ht, hts⟩ := List.forall_mem_cons.mp h
    rw [List.flatMap_cons]
    cases t with
    | char c =>
      have hc : c ≠ '<' := fun he => absurd (he ▸ ht : isDelimiter '<' = false) (by decide)
      rw [Token.written, List.singleton_append, tokens_of_tag?_none (tag?_of_ne hc), ih hts]
    | opening label =>
      have hlabel : '"' ∉ label := fun hm => absurd (ht _ hm) (by decide)
      rw [tokens_of_tag? (tag?_opening tag hlabel _), ih hts]
    | closing => rw [Token.written, tokens_of_tag? (tag?_closing tag _), ih hts]

/-! ## What tokens say -/

/-- The character of a token that is no tag. -/
def Token.char? : Token → Option Char
  | .char c => some c
  | _ => none

/-- The text without tags. -/
def plainText (ts : List Token) : String :=
  String.ofList (unescape (ts.filterMap Token.char?))

/-- The elements, each with its label and its text, where `within` is the label and what has been
read of the text of an element that is not closed. There are none if a tag closes no element, or an
element is not closed before the next one. -/
def elementsFrom : (within : Option (List Char × List Char)) → List Token →
    Option (List (String × String))
  | none, [] => some []
  | some _, [] => none
  | none, .char _ :: ts => elementsFrom none ts
  | none, .opening label :: ts => elementsFrom (some (label, [])) ts
  | none, .closing :: _ => none
  | some (label, cs), .char c :: ts => elementsFrom (some (label, cs ++ [c])) ts
  | some _, .opening _ :: _ => none
  | some (label, cs), .closing :: ts =>
    (elementsFrom none ts).map
      ((String.ofList (unescape label), String.ofList (unescape cs)) :: ·)

/-- The elements, each with its label and its text. -/
def elements (ts : List Token) : Option (List (String × String)) :=
  elementsFrom none ts

theorem elementsFrom_chars (cs : List Char) (ts : List Token) :
    elementsFrom none (cs.map .char ++ ts) = elementsFrom none ts := by
  induction cs with
  | nil => rfl
  | cons c cs ih => rw [List.map_cons, List.cons_append, elementsFrom, ih]

theorem elementsFrom_within (label : List Char) (cs : List Char) (ts : List Token) :
    ∀ before : List Char, elementsFrom (some (label, before)) (cs.map .char ++ .closing :: ts) =
      (elementsFrom none ts).map
        ((String.ofList (unescape label), String.ofList (unescape (before ++ cs))) :: ·) := by
  induction cs with
  | nil =>
    intro before
    rw [List.map_nil, List.nil_append, elementsFrom, List.append_nil]
  | cons c cs ih =>
    intro before
    rw [List.map_cons, List.cons_append, elementsFrom, ih, List.append_assoc, List.singleton_append]

end CiteSieve.Markup
