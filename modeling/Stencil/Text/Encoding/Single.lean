import Stencil.Text.Encoding.Flaw

/-!
The encodings in which every byte stands for one code point or for none.
-/

namespace Stencil
namespace Encoding

/-- The code point of each byte from 0x80 to 0x9F in the code page 1252, 0 for none. -/
def page1252Table : List Nat :=
  [0x20AC, 0, 0x201A, 0x192, 0x201E, 0x2026, 0x2020, 0x2021, 0x2C6, 0x2030, 0x160, 0x2039, 0x152,
   0, 0x17D, 0, 0, 0x2018, 0x2019, 0x201C, 0x201D, 0x2022, 0x2013, 0x2014, 0x2DC, 0x2122, 0x161,
   0x203A, 0x153, 0, 0x17E, 0x178]

/-- The bytes of Latin-9 that stand for another code point than their number. -/
def latin9Changes : List (Nat × Nat) :=
  [(0xA4, 0x20AC), (0xA6, 0x160), (0xA8, 0x161), (0xB4, 0x17D), (0xB8, 0x17E), (0xBC, 0x152),
   (0xBD, 0x153), (0xBE, 0x178)]

def asciiByte (n : Nat) : Except EncodingFlaw CodePoint :=
  if n < 0x80 then .ok (codePoint n) else .error .beyondAscii

def latin1Byte (n : Nat) : Except EncodingFlaw CodePoint :=
  .ok (codePoint n)

def latin9Byte (n : Nat) : Except EncodingFlaw CodePoint :=
  .ok (codePoint ((latin9Changes.lookup n).getD n))

def page1252Byte (n : Nat) : Except EncodingFlaw CodePoint :=
  if n < 0x80 ∨ 0xA0 ≤ n then .ok (codePoint n)
  else match page1252Table[n - 0x80]? with
    | none | some 0 => .error .unassigned
    | some m => .ok (codePoint m)

def decodeSingle (byte : Nat → Except EncodingFlaw CodePoint) (position : Nat) :
    List UInt8 → Except Undecodable Text
  | [] => return []
  | b :: rest =>
    match byte b.toNat with
    | .ok c => return c :: (← decodeSingle byte (position + 1) rest)
    | .error flaw => throw ⟨position, 1, b, flaw⟩

end Encoding
end Stencil
