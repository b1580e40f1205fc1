import Stencil.Text

/-!
Why bytes are no text, and why a text has no bytes. Decoding stops at the first bytes that stand for
no code point; surrogates have no bytes of their own in any encoding.
-/

namespace Stencil

inductive EncodingFlaw
  | startByte
  | continuationByte
  /-- The bytes end before those that are owed. -/
  | truncated
  /-- The bytes end inside a unit. -/
  | truncatedUnit
  /-- A high surrogate without a low one behind it. -/
  | highSurrogate
  /-- A low surrogate without a high one before it. -/
  | lowSurrogate
  | surrogate
  | beyondAscii
  | beyondUnicode
  | unassigned
deriving DecidableEq

namespace EncodingFlaw

def text : EncodingFlaw → Text
  | .startByte => "invalid start byte"
  | .continuationByte => "invalid continuation byte"
  | .truncated => "unexpected end of data"
  | .truncatedUnit => "truncated data"
  | .highSurrogate => "illegal UTF-16 surrogate"
  | .lowSurrogate => "illegal encoding"
  | .surrogate => "code point in surrogate code point range(0xd800, 0xe000)"
  | .beyondAscii => "ordinal not in range(128)"
  | .beyondUnicode => "code point not in range(0x110000)"
  | .unassigned => "character maps to <undefined>"

end EncodingFlaw

/-- Bytes that stand for no code point: where they begin, their number and the first of them. -/
structure Undecodable where
  position : Nat
  count : Nat
  first : UInt8
  flaw : EncodingFlaw

/-- Surrogates side by side that no bytes stand for: where they begin, their number, the first. -/
structure Unencodable where
  position : Nat
  count : Nat
  first : CodePoint

namespace Encoding

def codePoint (n : Nat) : CodePoint :=
  (CodePoint.ofNat? n).getD default

/-- Whether a surrogate stands for a byte that could not be decoded. -/
def isByteEscape (c : CodePoint) : Bool :=
  0xDC80 ≤ c.val && c.val ≤ 0xDCFF

/--
The first surrogates from a position on that cannot be encoded. Those that stand for bytes can, if
they are taken for such.
-/
def unencodable? (escapes : Bool) (position : Nat) : Text → Option Unencodable
  | [] => none
  | c :: rest =>
    if c.isSurrogate && !(escapes && isByteEscape c) then
      some ⟨position, 1 + (rest.takeWhile CodePoint.isSurrogate).length, c⟩
    else unencodable? escapes (position + 1) rest

end Encoding
end Stencil
