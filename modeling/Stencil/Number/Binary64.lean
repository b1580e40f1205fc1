import Stencil.Number.Ratio

/-!
Floating-point numbers of sixty-four bits, and the nearest one to a decimal number.
-/

namespace Stencil

/--
A floating-point number. A finite one is a mantissa below 2^53 times a power of two, its exponent
least among those that allow it. Each NaN is told from every other one by a tag.
-/
inductive Binary64
  | finite (negative : Bool) (mantissa : Nat) (exponent : Int)
  | infinite (negative : Bool)
  | nan (tag : Nat)
deriving DecidableEq, Inhabited

namespace Binary64

def minExponent : Int := -1074
def maxExponent : Int := 971
def precision : Nat := 53

def zero (negative : Bool) : Binary64 :=
  .finite negative 0 minExponent

def roundHalfEven (num den : Nat) : Nat :=
  let q := num / den
  let twice := 2 * (num % den)
  if twice < den ∨ (twice = den ∧ q % 2 = 0) then q else q + 1

/-- The binary exponent of the unit in the last place of a positive quotient. -/
def unitExponent (num den : Nat) : Int :=
  let estimate := (num.log2 : Int) - den.log2 - precision
  let mantissa := fun e : Int =>
    if 0 ≤ e then num / (den * Nat.pow 2 e.toNat) else num * Nat.pow 2 (-e).toNat / den
  let e := if mantissa estimate < Nat.pow 2 precision then estimate else estimate + 1
  max e minExponent

/-- The floating-point number nearest to a quotient; ties go to the even mantissa. -/
def ofQuotient (negative : Bool) (num den : Nat) : Binary64 :=
  if num = 0 ∨ den = 0 then zero negative
  else
    let e := unitExponent num den
    let m := if 0 ≤ e then roundHalfEven num (den * Nat.pow 2 e.toNat)
      else roundHalfEven (num * Nat.pow 2 (-e).toNat) den
    let (m, e) := if m = Nat.pow 2 precision then (Nat.pow 2 (precision - 1), e + 1) else (m, e)
    if maxExponent < e then .infinite negative else .finite negative m e

def ofDecimal (negative : Bool) (coefficient : Nat) (exponent : Int) : Binary64 :=
  let size := (Nat.toDigits 10 coefficient).length + exponent
  if coefficient = 0 ∨ size < -400 then zero negative
  else if 400 < size then .infinite negative
  else if 0 ≤ exponent then ofQuotient negative (coefficient * Nat.pow 10 exponent.toNat) 1
  else ofQuotient negative coefficient (Nat.pow 10 (-exponent).toNat)

def isNegative : Binary64 → Bool
  | .finite negative _ _ => negative
  | .infinite negative => negative
  | .nan _ => false

def isZero : Binary64 → Bool
  | .finite _ m _ => m == 0
  | _ => false

def ratio? : Binary64 → Option Ratio
  | .finite negative m e => some (Ratio.scale (if negative then -m else m) 2 e)
  | _ => none

end Binary64
end Stencil
