import Stencil.Number.Binary64
import Stencil.Text.Numeral

/-!
The shortest decimal number that reads back as a given floating-point number, and its text.
-/

namespace Stencil.Binary64

structure Digits where
  coefficient : Nat
  count : Nat
  exponent : Int

/-- The power of ten of the first significant digit of a positive quotient. -/
def leadingExponent (num den : Nat) : Int :=
  let atLeast := fun k : Int =>
    if 0 ≤ k then den * Nat.pow 10 k.toNat ≤ num else den ≤ num * Nat.pow 10 (-k).toNat
  let estimate := ((num.log2 : Int) - den.log2) * 30103 / 100000
  if atLeast (estimate + 1) then estimate + 1
  else if atLeast estimate then estimate
  else estimate - 1

/--
The numbers of a grid that round to the floating-point number: those between the midpoints to its
neighbours, the midpoints included when the mantissa is even. All is measured in quarters of the
last place, in which the lower neighbour of a power of two is nearer.
-/
structure Interval where
  low : Nat
  high : Nat
  closed : Bool

def interval (m : Nat) (e : Int) : Interval :=
  let nearBelow := m = Nat.pow 2 (precision - 1) ∧ minExponent < e
  ⟨if nearBelow then 4 * m - 1 else 4 * m - 2, 4 * m + 2, m % 2 = 0⟩

def Interval.contains (i : Interval) (scale value : Nat) : Bool :=
  if i.closed then i.low * scale ≤ value && value ≤ i.high * scale
  else i.low * scale < value && value < i.high * scale

/--
The decimal number with so many digits next to the value, if one of its two neighbours on that grid
reads back. Of two the nearer wins, and the even one of two that are equally near.
-/
def candidate? (m : Nat) (e : Int) (leading : Int) (digits : Nat) : Option Nat :=
  let unit := leading + 1 - digits
  -- Both the value and the grid are multiplied by the same powers of two and ten.
  let twos := fun k : Int => Nat.pow 2 k.toNat
  let tens := fun k : Int => Nat.pow 10 k.toNat
  let scale := twos (e - 2) * tens (-unit)
  let step := twos (2 - e) * tens unit
  let value := 4 * m * scale
  let below := value / step
  let i := interval m e
  let fits := fun n => i.contains scale (n * step)
  let gapBelow := value - below * step
  let gapAbove := (below + 1) * step - value
  match fits below, fits (below + 1) with
  | true, true =>
    some (if gapBelow < gapAbove ∨ (gapBelow = gapAbove ∧ below % 2 = 0) then below else below + 1)
  | true, false => some below
  | false, true => some (below + 1)
  | false, false => none

def shortestFrom (m : Nat) (e : Int) (leading : Int) : (remaining digits : Nat) → Digits
  | 0, digits => ⟨m, digits, leading⟩
  | remaining + 1, digits =>
    match candidate? m e leading digits with
    | some n => if n = Nat.pow 10 digits then ⟨1, 1, leading + 1⟩ else ⟨n, digits, leading⟩
    | none => shortestFrom m e leading remaining (digits + 1)

/-- Seventeen digits always suffice. -/
def shortest (m : Nat) (e : Int) : Digits :=
  let r := Ratio.scale m 2 e
  shortestFrom m e (leadingExponent r.num.natAbs r.den) 17 1

structure Style where
  /-- Exponents of the first digit from here on are written out. -/
  positionalFrom : Int
  /-- Exponents of the first digit from here on are not. -/
  positionalBelow : Int
  /-- Whether a number without fractional digits gets a zero after the point. -/
  pointZero : Bool

/-- Positional from 0.0001 up to sixteen digits before the point. -/
def plain : Style := ⟨-4, 16, true⟩

/-- As the plain style, without a point where no digit follows it. -/
def bare : Style := { plain with pointZero := false }

def exponentText (k : Int) : Text :=
  let digits := Numeral.decimal k.natAbs
  CodePoint.ofChar (if k < 0 then '-' else '+') ::
    (if digits.length < 2 then CodePoint.ofChar '0' :: digits else digits)

def zeros (n : Nat) : Text :=
  List.replicate n (CodePoint.ofChar '0')

def Style.decimal (l : Style) (d : Digits) : Text :=
  let digits := Numeral.decimal d.coefficient
  let digits := zeros (d.count - digits.length) ++ digits
  let point := CodePoint.ofChar '.'
  if l.positionalFrom ≤ d.exponent ∧ d.exponent < l.positionalBelow then
    if d.exponent < 0 then
      CodePoint.ofChar '0' :: point :: zeros (-d.exponent - 1).toNat ++ digits
    else
      let whole := d.exponent.toNat + 1
      let fraction := digits.drop whole
      digits.take whole ++ zeros (whole - digits.length) ++
        (if fraction ≠ [] then point :: fraction
         else if l.pointZero then [point, CodePoint.ofChar '0'] else [])
  else
    match digits with
    | [] => []
    | [c] => c :: CodePoint.ofChar 'e' :: exponentText d.exponent
    | c :: rest => c :: point :: rest ++ CodePoint.ofChar 'e' :: exponentText d.exponent

def Style.magnitude (l : Style) : Binary64 → Text
  | .nan _ => "nan"
  | .infinite _ => "inf"
  | .finite _ 0 _ => if l.pointZero then "0.0" else "0"
  | .finite _ m e => l.decimal (shortest m e)

def Style.text (l : Style) (x : Binary64) : Text :=
  if x.isNegative then CodePoint.ofChar '-' :: l.magnitude x else l.magnitude x

def text (x : Binary64) : Text :=
  plain.text x

end Stencil.Binary64
