import CiteSieve.Json.Parser
import CiteSieve.Text.Utf8

/-!
# Reading JSON from bytes

A document in a file should be UTF-8. Where it is not, a fault of the document that stands before
the first bad byte, or around it outside of strings, makes it no document; in a string that is
well formed otherwise the bytes cannot be decoded.

* `Json.parseBytes`: the value of a document in bytes.
-/

namespace CiteSieve.Json

/-- What is wrong with bytes that are no document. -/
inductive ByteFlaw where
  | flaw (f : Flaw)
  /-- A string is no UTF-8; positions count from its start. -/
  | undecodable (e : Text.Utf8Flaw)
  deriving DecidableEq, Repr

/-- What stands after the quote of the string that is open after the first `n` octets; `content`
is that of the string that is open so far. -/
def openContent : (n : Nat) → (content : Option (List Char)) → List Char → Option (List Char)
  | n + 2, some s, '\\' :: _ :: cs => openContent n (some s) cs
  | n + 1, some s, c :: cs => openContent n (if c = '"' then none else some s) cs
  | n + 1, none, c :: cs => openContent n (if c = '"' then some cs else none) cs
  | _, content, _ => content

/-- The bytes of a string up to its closing quote, given octet by octet; at most `fuel` of them. -/
def stringBytes : (fuel : Nat) → List Char → Except Flaw (List UInt8)
  | 0, _ => .error .truncated
  | _ + 1, [] => .error .truncated
  | fuel + 1, c :: cs =>
    if c = '"' then .ok []
    else if c = '\\' then do
      let (d, rest) ← readEscape cs
      let bytes ← stringBytes fuel rest
      .ok (d.toString.toUTF8.toList ++ bytes)
    else if c.toNat < 0x20 then .error .malformed
    else (stringBytes fuel cs).map fun bytes => c.toNat.toUInt8 :: bytes

/-- The flaw of a document whose first bad byte stands after the first `n` octets. -/
def flawAt (n : Nat) (octets : List Char) : ByteFlaw :=
  match openContent n none octets with
  | none => .flaw .malformed
  | some content =>
    match stringBytes (content.length + 1) content with
    | .error f => .flaw f
    | .ok bytes =>
      match Text.utf8Flaw? bytes.length 0 bytes with
      | some e => .undecodable e
      | none => .flaw .malformed

/-- The value of a document in bytes. -/
def parseBytes (bytes : ByteArray) : Except ByteFlaw Json :=
  match Text.decodeUtf8 bytes with
  | .ok text => (parse text).mapError .flaw
  | .error e =>
    let before := Text.ofUtf8? (bytes.extract 0 e.position)
    match parse (before.getD "") with
    | .error .truncated => .error (flawAt e.position (Text.ofOctets bytes).toList)
    | _ => .error (.flaw .malformed)

end CiteSieve.Json
