/-!
# Texts in files

A file of text holds UTF-8. Bytes that are no UTF-8 can still be read with one character for
each byte. Every line end is read as a line feed.
-/

namespace CiteSieve.Text

/-- Line ends as line feeds: a carriage return, with a line feed after it or not. -/
def unifyLineEnds : List Char → List Char
  | [] => []
  | '\r' :: '\n' :: cs => '\n' :: unifyLineEnds cs
  | c :: cs => (if c = '\r' then '\n' else c) :: unifyLineEnds cs

/-- The text with line feeds as line ends. -/
def unifyLines (s : String) : String :=
  String.ofList (unifyLineEnds s.toList)

/-- The text of UTF-8 bytes. -/
def ofUtf8? (b : ByteArray) : Option String :=
  String.fromUTF8? b

/-- The text with one character for each byte. -/
def ofOctets (b : ByteArray) : String :=
  String.ofList (b.toList.map fun o => Char.ofNat o.toNat)

/-- The text of UTF-8 bytes, or else the one with a character for each byte. -/
def ofBytes (b : ByteArray) : String :=
  (ofUtf8? b).getD (ofOctets b)

theorem unifyLineEnds_eq_self {cs : List Char} (h : '\r' ∉ cs) : unifyLineEnds cs = cs := by
  fun_induction unifyLineEnds cs with
  | case1 => rfl
  | case2 cs ih => simp at h
  | case3 c cs _ ih =>
    simp only [List.mem_cons, not_or] at h
    rw [if_neg (fun e => h.1 e.symm), ih h.2]

end CiteSieve.Text
