import CiteSieve.Text.Encoding

/-!
# Flaws of UTF-8

Why bytes are no UTF-8: at the first place where no character can be read, a byte cannot begin
one, a later byte cannot continue it, or the bytes end within it.

* `decodeUtf8`: the text of bytes, or their first flaw.
-/

namespace CiteSieve.Text

/-- Why no character can be read. -/
inductive Utf8Fault where
  | badStart
  | badContinuation
  | truncated
  deriving DecidableEq, Repr

def Utf8Fault.message : Utf8Fault → String
  | .badStart => "invalid start byte"
  | .badContinuation => "invalid continuation byte"
  | .truncated => "unexpected end of data"

/-- Bytes from `position` on that begin no character. -/
structure Utf8Flaw where
  position : Nat
  bytes : List UInt8
  fault : Utf8Fault
  deriving DecidableEq, Repr

/-- A byte as two hexadecimal digits. -/
def hexByte (b : UInt8) : String :=
  let digits := Nat.toDigits 16 b.toNat
  String.ofList (List.replicate (2 - digits.length) '0' ++ digits)

def Utf8Flaw.message (e : Utf8Flaw) : String :=
  let subject := match e.bytes with
    | [b] => s!"byte 0x{hexByte b} in position {e.position}"
    | bs => s!"bytes in position {e.position}-{e.position + bs.length - 1}"
  s!"'utf-8' codec can't decode {subject}: {e.fault.message}"

/-- The flaw as a reader of chunks reports it, which keeps bytes that the end cuts off for the
next chunk and reads them on their own. -/
def Utf8Flaw.inChunk (e : Utf8Flaw) : Utf8Flaw :=
  if e.fault = .truncated then { e with position := 0 } else e

/-! ## Finding a flaw -/

/-- How many bytes continue the character that the byte begins, and the range of the first of
them; `none` if it begins none. -/
def continuation? (b : UInt8) : Option (Nat × UInt8 × UInt8) :=
  if b < 0x80 then some (0, 0x80, 0xbf)
  else if b < 0xc2 then none
  else if b < 0xe0 then some (1, 0x80, 0xbf)
  else if b < 0xf0 then
    some (2, if b = 0xe0 then 0xa0 else 0x80, if b = 0xed then 0x9f else 0xbf)
  else if b < 0xf5 then
    some (3, if b = 0xf0 then 0x90 else 0x80, if b = 0xf4 then 0x8f else 0xbf)
  else none

/-- Continue a character with `n` more bytes, the next one in the range: what follows it, or the
bytes that could be read with the fault after them. -/
def continueChar : (n : Nat) → (low high : UInt8) → List UInt8 →
    Except (List UInt8 × Utf8Fault) (List UInt8)
  | 0, _, _, bs => .ok bs
  | _ + 1, _, _, [] => .error ([], .truncated)
  | n + 1, low, high, b :: bs =>
    if low ≤ b ∧ b ≤ high then
      (continueChar n 0x80 0xbf bs).mapError fun (read, fault) => (b :: read, fault)
    else .error ([], .badContinuation)

/-- The first flaw of the bytes, which stand at `position`; at most `fuel` characters are read. -/
def utf8Flaw? : (fuel position : Nat) → List UInt8 → Option Utf8Flaw
  | fuel + 1, position, b :: bs =>
    match continuation? b with
    | none => some ⟨position, [b], .badStart⟩
    | some (n, low, high) =>
      match continueChar n low high bs with
      | .ok rest => utf8Flaw? fuel (position + n + 1) rest
      | .error (read, fault) => some ⟨position, b :: read, fault⟩
  | _, _, _ => none

/-- The text of UTF-8 bytes, or their first flaw. -/
def decodeUtf8 (bytes : ByteArray) : Except Utf8Flaw String :=
  match ofUtf8? bytes with
  | some s => .ok s
  | none => .error ((utf8Flaw? bytes.size 0 bytes.toList).getD ⟨0, [], .truncated⟩)

end CiteSieve.Text
