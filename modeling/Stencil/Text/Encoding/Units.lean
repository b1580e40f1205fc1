import Stencil.Text.Encoding.Flaw

/-!
The encodings in units of two or four bytes, the least or the most significant byte first. Units of
two bytes stand for a code point beyond them in pairs of surrogates.
-/

namespace Stencil

inductive ByteOrder
  | little
  | big
deriving DecidableEq

namespace ByteOrder

def number (order : ByteOrder) (unit : List UInt8) : Nat :=
  let significantFirst := match order with
    | .little => unit.reverse
    | .big => unit
  significantFirst.foldl (fun n b => 0x100 * n + b.toNat) 0

def suffix : ByteOrder → Text
  | .little => "-le"
  | .big => "-be"

end ByteOrder

namespace Encoding

def isHighSurrogate (n : Nat) : Bool :=
  0xD800 ≤ n && n ≤ 0xDBFF

def isLowSurrogate (n : Nat) : Bool :=
  0xDC00 ≤ n && n ≤ 0xDFFF

def ofPair (high low : Nat) : CodePoint :=
  codePoint (0x10000 + 0x400 * (high - 0xD800) + (low - 0xDC00))

def decodeUtf16 (order : ByteOrder) (position : Nat) : List UInt8 → Except Undecodable Text
  | [] => return []
  | [b] => throw ⟨position, 1, b, .truncatedUnit⟩
  | a :: b :: rest =>
    let unit := order.number [a, b]
    if isLowSurrogate unit then throw ⟨position, 2, a, .lowSurrogate⟩
    else if isHighSurrogate unit then
      match rest with
      | c :: d :: rest =>
        let next := order.number [c, d]
        if isLowSurrogate next then
          return ofPair unit next :: (← decodeUtf16 order (position + 4) rest)
        else throw ⟨position, 2, a, .highSurrogate⟩
      | rest => throw ⟨position, 2 + rest.length, a, .truncated⟩
    else return codePoint unit :: (← decodeUtf16 order (position + 2) rest)

def decodeUtf32 (order : ByteOrder) (position : Nat) : List UInt8 → Except Undecodable Text
  | [] => return []
  | a :: b :: c :: d :: rest =>
    match CodePoint.ofNat? (order.number [a, b, c, d]) with
    | some p =>
      if p.isSurrogate then throw ⟨position, 4, a, .surrogate⟩
      else return p :: (← decodeUtf32 order (position + 4) rest)
    | none => throw ⟨position, 4, a, .beyondUnicode⟩
  | a :: rest => throw ⟨position, 1 + rest.length, a, .truncatedUnit⟩

end Encoding
end Stencil
