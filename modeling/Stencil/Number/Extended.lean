import Stencil.Number.Binary64
import Stencil.Number.Decimal

/-!
Numbers of all types as real numbers, infinities and NaNs, compared by value.
-/

namespace Stencil

inductive ExtendedReal
  | finite (r : Ratio)
  /-- A coefficient, not zero, times a power of ten so large or small that no float is near. -/
  | extreme (negative : Bool) (coefficient : Nat) (exponent : Int)
  | infinite (negative : Bool)
  | nan
  /-- A NaN that refuses to be compared. -/
  | signaling

namespace ExtendedReal

def isSignaling : ExtendedReal → Bool
  | .signaling => true
  | _ => false

def isZero : ExtendedReal → Bool
  | .finite r => r.num = 0
  | _ => false

/--
Whether a decimal number of great size is the given one. The sizes are compared first, so that no
power of ten is taken that is much larger than the numbers themselves.
-/
def extremeEqual (negative : Bool) (coefficient : Nat) (exponent : Int) : ExtendedReal → Bool
  | .finite r =>
    let leading := DecimalNumber.leadingExponent coefficient exponent
    r.den = 1 && 0 ≤ leading && 3 * leading ≤ r.num.natAbs.log2 + 1 &&
      Ratio.scale (if negative then -coefficient else coefficient) 10 exponent == r
  | .extreme negative' coefficient' exponent' =>
    negative = negative' &&
      DecimalNumber.leadingExponent coefficient exponent =
        DecimalNumber.leadingExponent coefficient' exponent' &&
      Ratio.scale coefficient 10 (exponent - exponent') == Ratio.ofInt coefficient'
  | _ => false

def equal : ExtendedReal → ExtendedReal → Bool
  | .extreme negative coefficient exponent, x | x, .extreme negative coefficient exponent =>
    extremeEqual negative coefficient exponent x
  | .finite a, .finite b => a == b
  | .infinite a, .infinite b => a == b
  | _, _ => false

end ExtendedReal

def Binary64.extended : Binary64 → ExtendedReal
  | x@(.finite ..) => match x.ratio? with
    | some r => .finite r
    | none => .nan
  | .infinite negative => .infinite negative
  | .nan _ => .nan

/-- The first digits of all floating-point numbers but zero have powers of ten up to this size. -/
def floatReach : Nat := 400

def DecimalNumber.extended : DecimalNumber → ExtendedReal
  | .finite negative c e =>
    if c = 0 then .finite (.ofInt 0)
    else if floatReach < (leadingExponent c e).natAbs then .extreme negative c e
    else .finite (Ratio.scale (if negative then -c else c) 10 e)
  | .infinite negative => .infinite negative
  | .nan _ signaling _ _ => if signaling then .signaling else .nan

end Stencil
