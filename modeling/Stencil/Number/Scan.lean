import Stencil.Number.Binary64
import Stencil.Number.Decimal
import Stencil.Unicode.Blank
import Stencil.Unicode.Digit

/-!
Reading numbers: integers, floating-point numbers and decimal numbers as they may be written. Spaces
at the ends do not count (around a decimal number, no blank does), letters may be of either case,
and the digits of every script are digits.
-/

namespace Stencil

/-- A number in positional form: a sign, the digits without the point, and a power of ten. -/
structure Written where
  negative : Bool
  coefficient : Nat
  exponent : Int
deriving DecidableEq

namespace Written

def underscore : CodePoint := CodePoint.ofChar '_'

/-- The ASCII digit for a digit of any script, and the small letter for an ASCII capital. -/
def fold (c : CodePoint) : CodePoint :=
  match Unicode.digit? c with
  | some d => CodePoint.ofChar (Nat.digitChar d)
  | none => if 0x41 ≤ c.val ∧ c.val ≤ 0x5A then (CodePoint.ofNat? (c.val + 0x20)).getD c else c

def isDigit (c : CodePoint) : Bool :=
  (Numeral.digit? c).isSome

/--
The text without its underscores, as long as each stands between two digits. It is known whether the
code point before the text is a digit.
-/
def ungroup? (afterDigit : Bool) : Text → Option Text
  | [] => some []
  | c :: rest =>
    if c = underscore then
      if afterDigit ∧ rest.head?.any isDigit then ungroup? false rest else none
    else (ungroup? (isDigit c) rest).map (c :: ·)

/--
The number of the digits that a text starts with; none if one of the underscores among them stands
elsewhere than between two digits.
-/
def leadingDigits? (afterDigit : Bool) : Text → Option Nat
  | [] => some 0
  | c :: rest =>
    if c = underscore then
      if afterDigit ∧ rest.head?.any isDigit then leadingDigits? false rest else none
    else if isDigit c then (leadingDigits? true rest).map (· + 1)
    else some 0

def splitSign : Text → Bool × Text
  | c :: rest =>
    if c = CodePoint.ofChar '-' then (true, rest)
    else if c = CodePoint.ofChar '+' then (false, rest)
    else (false, c :: rest)
  | [] => (false, [])

def signed (negative : Bool) (n : Nat) : Int :=
  if negative then -n else n

def integer? (t : Text) : Option Int :=
  let (negative, digits) := splitSign t
  (Numeral.ofDigits? digits).map (signed negative)

def mantissa? (t : Text) : Option (Nat × Nat) :=
  let point := CodePoint.ofChar '.'
  let whole := t.takeWhile (· ≠ point)
  let fraction := (t.dropWhile (· ≠ point)).drop 1
  (Numeral.ofDigits? (whole ++ fraction)).map (·, fraction.length)

/-- Reads digits with a point and an exponent, each of which may be missing. -/
def ofText? (t : Text) : Option Written := do
  let (negative, t) := splitSign t
  let mark := CodePoint.ofChar 'e'
  let (coefficient, places) ← mantissa? (t.takeWhile (· ≠ mark))
  let exponent ← match t.dropWhile (· ≠ mark) with
    | [] => some 0
    | _ :: rest => integer? rest
  return ⟨negative, coefficient, exponent - places⟩

def isInfinity (t : Text) : Bool :=
  t = "inf" ∨ t = "infinity"

end Written

namespace Numeral

def integer? (t : Text) : Option Int := do
  Written.integer? (← Written.ungroup? false ((t.stripOf Unicode.isSpace).map Written.fold))

/-- The number of the digits that a text starts with after its blanks and its sign. -/
def digitCount? (t : Text) : Option Nat :=
  Written.leadingDigits? false (Written.splitSign ((t.stripOf Unicode.isSpace).map Written.fold)).2

end Numeral

/-- Reads a floating-point number; underscores may stand between digits. A NaN gets the tag. -/
def Binary64.ofText? (tag : Nat) (t : Text) : Option Binary64 := do
  let t ← Written.ungroup? false ((t.stripOf Unicode.isSpace).map Written.fold)
  let (negative, name) := Written.splitSign t
  if Written.isInfinity name then return .infinite negative
  if name = ("nan" : Text) then return .nan tag
  let w ← Written.ofText? t
  return .ofDecimal w.negative w.coefficient w.exponent

namespace DecimalNumber

/-- The name of a NaN before its payload, and whether it is a signaling one. -/
def splitNan? (t : Text) : Option (Bool × Text) :=
  if ("nan" : Text).isPrefixOf t then some (false, t.drop 3)
  else if ("snan" : Text).isPrefixOf t then some (true, t.drop 4)
  else none

/-- Reads a decimal number; underscores do not count anywhere. A NaN gets the tag. -/
def ofText? (tag : Nat) (t : Text) : Option DecimalNumber := do
  let t := (t.strip.map Written.fold).filter (· ≠ Written.underscore)
  let (negative, name) := Written.splitSign t
  if Written.isInfinity name then return .infinite negative
  match splitNan? name with
  | some (signaling, []) => return .nan negative signaling 0 tag
  | some (signaling, digits) => return .nan negative signaling (← Numeral.ofDigits? digits) tag
  | none =>
    let w ← Written.ofText? t
    return .finite w.negative w.coefficient w.exponent

end DecimalNumber
end Stencil
