/-!
Exact quotients of an integer by a natural number, compared by value.
-/

namespace Stencil

/-- A quotient, not always in lowest terms. The denominator is positive wherever one is made. -/
structure Ratio where
  num : Int
  den : Nat

namespace Ratio

def ofInt (n : Int) : Ratio := ⟨n, 1⟩

def scale (n : Int) (base : Nat) (exponent : Int) : Ratio :=
  match exponent with
  | .ofNat k => ⟨n * Nat.pow base k, 1⟩
  | .negSucc k => ⟨n, Nat.pow base (k + 1)⟩

instance : BEq Ratio := ⟨fun a b => a.num * b.den == b.num * a.den⟩

def le (a b : Ratio) : Bool :=
  a.num * b.den ≤ b.num * a.den

end Ratio
end Stencil
