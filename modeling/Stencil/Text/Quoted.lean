import Stencil.Text.Escape
import Stencil.Unicode.Printable

/-!
Quoted forms of text and of bytes, each on one line and made of printable code points only.
-/

namespace Stencil.Quoted

def backslash : CodePoint := CodePoint.ofChar '\\'
def single : CodePoint := CodePoint.ofChar '\''
def double : CodePoint := CodePoint.ofChar '"'

/-- Single quotes, unless the text holds some of them and no double ones. -/
def quoteOf (t : Text) : CodePoint :=
  if single ∈ t ∧ double ∉ t then double else single

def escapeIn (quote c : CodePoint) : Text :=
  if c = backslash ∨ c = quote then [backslash, c]
  else match Escape.control? c with
    | some e => e
    | none => if Unicode.isPrintable c then [c] else Escape.numeric c

def text (t : Text) : Text :=
  quoteOf t :: t.flatMap (escapeIn (quoteOf t)) ++ [quoteOf t]

def ofByte (b : UInt8) : CodePoint :=
  ⟨b.toNat, Nat.lt_trans b.toNat_lt (by decide)⟩

/-- A byte by its ASCII character, or by its number where that is not a visible one. -/
def escapeByte (escaped : List CodePoint) (b : UInt8) : Text :=
  let c := ofByte b
  if c ∈ escaped then [backslash, c]
  else match Escape.control? c with
    | some e => e
    | none => if 0x20 ≤ c.val ∧ c.val < 0x7F then [c] else Escape.numeric c

def bytes (bs : List UInt8) : Text :=
  let quote := quoteOf (bs.map ofByte)
  CodePoint.ofChar 'b' :: quote :: bs.flatMap (escapeByte [backslash, quote]) ++ [quote]

/-- The quoted form of a byte string that can change: a single quote is always escaped. -/
def byteArray (bs : List UInt8) : Text :=
  let quote := quoteOf (bs.map ofByte)
  CodePoint.ofChar 'b' :: quote :: bs.flatMap (escapeByte [backslash, single]) ++ [quote]

end Stencil.Quoted
