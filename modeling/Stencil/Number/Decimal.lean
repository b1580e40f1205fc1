import Stencil.Number.Ratio
import Stencil.Text.Numeral

/-!
Decimal numbers that keep the digits they were written with.
-/

namespace Stencil

/--
A decimal number: a coefficient times a power of ten, an infinity, or a NaN. A NaN has a sign and a
payload and may be a signaling one; a tag tells it from every other one.
-/
inductive DecimalNumber
  | finite (negative : Bool) (coefficient : Nat) (exponent : Int)
  | infinite (negative : Bool)
  | nan (negative signaling : Bool) (payload tag : Nat)
deriving DecidableEq

namespace DecimalNumber

def isZero : DecimalNumber → Bool
  | .finite _ c _ => c == 0
  | _ => false

/-- Whether comparing the number with any other one is refused. -/
def isSignaling : DecimalNumber → Bool
  | .nan _ signaling _ _ => signaling
  | _ => false

def leadingExponent (coefficient : Nat) (exponent : Int) : Int :=
  exponent + (Nat.toDigits 10 coefficient).length - 1

def greatestExponent : Int := 999999999999999999

def leastExponent : Int := -1999999999999999997

/-- Whether the exponents of a number are in range. Zero has its exponent for its only digit. -/
def inRange : DecimalNumber → Bool
  | .finite _ c e =>
    leastExponent ≤ e && (if c = 0 then e else leadingExponent c e) ≤ greatestExponent
  | _ => true

/-- Positional when no zero has to be added after the digits, and at most six before them. -/
def magnitude (coefficient : Nat) (exponent : Int) : Text :=
  let digits := Numeral.decimal coefficient
  let adjusted := leadingExponent coefficient exponent
  let point := CodePoint.ofChar '.'
  if exponent ≤ 0 ∧ -6 ≤ adjusted then
    if exponent = 0 then digits
    else
      let fraction := (-exponent).toNat
      let padded := List.replicate (fraction + 1 - digits.length) (CodePoint.ofChar '0') ++ digits
      padded.take (padded.length - fraction) ++ point :: padded.drop (padded.length - fraction)
  else
    let mantissa := match digits with
      | c :: d :: rest => c :: point :: d :: rest
      | short => short
    let sign := if adjusted < 0 then '-' else '+'
    mantissa ++ CodePoint.ofChar 'E' :: CodePoint.ofChar sign :: Numeral.decimal adjusted.natAbs

def sign (negative : Bool) : Text :=
  if negative then "-" else []

def text : DecimalNumber → Text
  | .finite negative c e => sign negative ++ magnitude c e
  | .infinite negative => sign negative ++ "Infinity"
  | .nan negative signaling payload _ =>
    sign negative ++ (if signaling then "sNaN" else "NaN") ++
      (if payload = 0 then [] else Numeral.decimal payload)

end DecimalNumber
end Stencil
