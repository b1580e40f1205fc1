import Stencil.Text

/-!
Numerals: decimal digits without a leading zero, hexadecimal digits of a fixed width, and the
longest numeral that is ever written in full.
-/

namespace Stencil.Numeral

def decimal (n : Nat) : Text :=
  Text.ofChars (Nat.toDigits 10 n)

def signed (n : Int) : Text :=
  if n < 0 then CodePoint.ofChar '-' :: decimal n.natAbs else decimal n.natAbs

/-- An integer has a written numeral up to this many digits, the sign not counted. -/
def digitLimit : Nat := 4300

def withinLimit (n : Int) : Bool :=
  n.natAbs < Nat.pow 10 digitLimit

def hexDigit (d : Nat) : CodePoint :=
  CodePoint.ofChar (Nat.digitChar (d % 16))

/-- The last digits of a number in base sixteen, the most significant first. -/
def hex : (width : Nat) → Nat → Text
  | 0, _ => []
  | width + 1, n => hex width (n / 16) ++ [hexDigit n]

def digit? (c : CodePoint) : Option Nat :=
  if 48 ≤ c.val ∧ c.val ≤ 57 then some (c.val - 48) else none

/-- Reads digits only, and at least one. -/
def ofDigits? (t : Text) : Option Nat :=
  match t with
  | [] => none
  | _ => t.foldlM (fun n c => (digit? c).map (10 * n + ·)) 0

def positionDigits : Nat := 18

/--
Reads a position written as a numeral: ASCII digits without a sign, a leading zero or blanks, and
few enough of them.
-/
def position? (t : Text) : Option Nat :=
  match t with
  | [] => none
  | c :: rest =>
    if c = CodePoint.ofChar '0' ∧ rest ≠ [] then none
    else if positionDigits < t.length then none
    else ofDigits? t

end Stencil.Numeral
