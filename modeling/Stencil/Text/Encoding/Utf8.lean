import Stencil.Text.Encoding.Flaw

/-!
The encoding in one to four bytes. The first byte promises how many follow and bounds the second, so
that no code point has two forms and no surrogate has one.
-/

namespace Stencil
namespace Encoding

/-- A code point of which bytes are still owed. -/
structure Pending where
  position : Nat
  first : UInt8
  owed : Nat
  /-- The least and the greatest byte that may come next. -/
  low : Nat
  high : Nat
  value : Nat

/-- What the first byte of several promises: their number, bounds of the second, its own bits. -/
def promise? (position : Nat) (b : UInt8) : Option Pending :=
  let n := b.toNat
  if 0xC2 ≤ n ∧ n ≤ 0xDF then some ⟨position, b, 1, 0x80, 0xBF, n % 0x20⟩
  else if n = 0xE0 then some ⟨position, b, 2, 0xA0, 0xBF, n % 0x10⟩
  else if n = 0xED then some ⟨position, b, 2, 0x80, 0x9F, n % 0x10⟩
  else if 0xE1 ≤ n ∧ n ≤ 0xEF then some ⟨position, b, 2, 0x80, 0xBF, n % 0x10⟩
  else if n = 0xF0 then some ⟨position, b, 3, 0x90, 0xBF, n % 0x8⟩
  else if 0xF1 ≤ n ∧ n ≤ 0xF3 then some ⟨position, b, 3, 0x80, 0xBF, n % 0x8⟩
  else if n = 0xF4 then some ⟨position, b, 3, 0x80, 0x8F, n % 0x8⟩
  else none

/-- Decodes the bytes from a position on, of which the first ones may be owed to a code point. -/
def decodeUtf8 (position : Nat) (pending : Option Pending) :
    List UInt8 → Except Undecodable Text
  | [] =>
    match pending with
    | none => return []
    | some p => throw ⟨p.position, position - p.position, p.first, .truncated⟩
  | b :: rest =>
    match pending with
    | none =>
      if b.toNat < 0x80 then
        return codePoint b.toNat :: (← decodeUtf8 (position + 1) none rest)
      else match promise? position b with
        | some p => decodeUtf8 (position + 1) (some p) rest
        | none => throw ⟨position, 1, b, .startByte⟩
    | some p =>
      let value := 0x40 * p.value + b.toNat % 0x40
      if b.toNat < p.low ∨ p.high < b.toNat then
        throw ⟨p.position, position - p.position, p.first, .continuationByte⟩
      else if p.owed = 1 then
        return codePoint value :: (← decodeUtf8 (position + 1) none rest)
      else
        decodeUtf8 (position + 1)
          (some ⟨p.position, p.first, p.owed - 1, 0x80, 0xBF, value⟩) rest

end Encoding
end Stencil
