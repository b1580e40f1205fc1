import Stencil.Number.Binary64
import Stencil.Number.Decimal

/-!
Residues of numbers modulo a prime. A number leaves the same residue however it is written, as an
integer, as a binary or as a decimal fraction, because a power with a negative exponent is a power
of the inverse.
-/

namespace Stencil.Residue

/-- The modulus: the prime that is written with sixty-one ones in base two. -/
def modulus : Nat := 0x1FFFFFFFFFFFFFFF

/-- A power by squaring, for an exponent of so many bits. -/
def powerOfBits : (bits : Nat) → (base exponent : Nat) → Nat
  | 0, _, _ => 1
  | bits + 1, base, exponent =>
    let squares := powerOfBits bits (base * base % modulus) (exponent / 2)
    if exponent % 2 = 1 then base * squares % modulus else squares

def power (base exponent : Nat) : Nat :=
  powerOfBits (exponent.log2 + 1) base exponent

def inverse (n : Nat) : Nat :=
  power n (modulus - 2)

/-- Minus one is no residue: it is taken for minus two. -/
def settle (n : Int) : Int :=
  if n = -1 then -2 else n

def signed (negative : Bool) (n : Nat) : Int :=
  settle (if negative then -n else n)

def ofScaled (negative : Bool) (coefficient base : Nat) (exponent : Int) : Int :=
  let factor := match exponent with
    | .ofNat k => power base k
    | .negSucc k => power (inverse base) (k + 1)
  signed negative (coefficient * factor % modulus)

def ofInt (n : Int) : Int :=
  signed (n < 0) (n.natAbs % modulus)

def ofInfinity (negative : Bool) : Int :=
  signed negative 314159

/-- The residue of a complex number, in a word of sixty-four bits. -/
def ofParts (re im : Int) : Int :=
  settle (Int.bmod (re + 1000003 * im) 0x10000000000000000)

end Stencil.Residue

namespace Stencil

def Binary64.residue? : Binary64 → Option Int
  | .finite negative m e => some (Residue.ofScaled negative m 2 e)
  | .infinite negative => some (Residue.ofInfinity negative)
  | .nan _ => none

def DecimalNumber.residue? : DecimalNumber → Option Int
  | .finite negative c e => some (Residue.ofScaled negative c 10 e)
  | .infinite negative => some (Residue.ofInfinity negative)
  | .nan .. => none

end Stencil
