import Stencil.Number.Binary64
import Stencil.Number.Decimal

/-!
Products of numbers with integers. Each result is the exact one, rounded once.
-/

namespace Stencil

namespace Binary64

/-- The sum or product of finite numbers from its exact value. -/
def ofRatio (negativeZero : Bool) (r : Ratio) : Binary64 :=
  if r.num = 0 then zero negativeZero else ofQuotient (r.num < 0) r.num.natAbs r.den

def ofInt? (n : Int) : Option Binary64 :=
  match ofRatio false (.ofInt n) with
  | .infinite _ => none
  | x => some x

def neg : Binary64 → Binary64
  | .finite negative m e => .finite (!negative) m e
  | .infinite negative => .infinite (!negative)
  | .nan tag => .nan tag

/-- The product. That of zero and an infinity is a NaN, which gets the tag. -/
def mul (tag : Nat) (x y : Binary64) : Binary64 :=
  let negative := x.isNegative != y.isNegative
  match x, y with
  | .finite _ m d, .finite _ n e =>
    ofRatio negative (.scale (if negative then -(m * n) else m * n) 2 (d + e))
  | .nan _, _ | _, .nan _ => .nan tag
  | x, y => if x.isZero || y.isZero then .nan tag else .infinite negative

def add (tag : Nat) (x y : Binary64) : Binary64 :=
  match x, y with
  | .infinite a, .infinite b => if a = b then .infinite a else .nan tag
  | .nan _, _ | _, .nan _ => .nan tag
  | .infinite a, _ | _, .infinite a => .infinite a
  | x, y =>
    match x.ratio?, y.ratio? with
    | some a, some b =>
      ofRatio (x.isNegative && y.isNegative) ⟨a.num * b.den + b.num * a.den, a.den * b.den⟩
    | _, _ => .nan tag

def complexProduct (tags : Nat × Nat) (re im x : Binary64) : Binary64 × Binary64 :=
  let (s, t) := tags
  let zero := Binary64.zero false
  (add s (mul s re x) (neg (mul s im zero)), add t (mul t re zero) (mul t im x))

end Binary64

namespace DecimalNumber

def precision : Nat := 28

def leastResultExponent : Int := -1000026

def greatestResultExponent : Int := 999999

/-- The decimal number for an exact result, a half going to the even digit. -/
def rounded (negative : Bool) (coefficient : Nat) (exponent : Int) : DecimalNumber :=
  let size := (Nat.toDigits 10 coefficient).length
  let e := max (exponent + (size - precision : Nat)) leastResultExponent
  let c := Binary64.roundHalfEven coefficient (Nat.pow 10 (e - exponent).toNat)
  if c = 0 then .finite negative 0 (min e greatestResultExponent)
  else if c = Nat.pow 10 precision then .finite negative (Nat.pow 10 (precision - 1)) (e + 1)
  else .finite negative c e

def timesInt? (d : DecimalNumber) (n : Int) : Option DecimalNumber :=
  match d with
  | .finite negative c e => some (rounded (negative != decide (n < 0)) (c * n.natAbs) e)
  | .infinite negative => if n = 0 then none else some (.infinite (negative != decide (n < 0)))
  | .nan _ true .. => none
  | quiet => some quiet

end DecimalNumber
end Stencil
