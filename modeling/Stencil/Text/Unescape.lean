import Stencil.Text.Escape

/-!
Reading an escape back, one code point at a time. Each escape stands for one code point by itself:
two surrogates in a row stay two.
-/

namespace Stencil.Escape

/-- What of an escape is read: nothing after the backslash, or digits of a number still to end. -/
inductive Pending
  | start
  | digits (remaining value : Nat)
deriving DecidableEq

/-- The escape after one more code point: the code point that it stands for, or still pending. -/
inductive Progress
  | done (c : CodePoint)
  | more (p : Pending)
deriving DecidableEq

def hexValue? (c : CodePoint) : Option Nat :=
  if 48 ≤ c.val ∧ c.val ≤ 57 then some (c.val - 48)
  else if 97 ≤ c.val ∧ c.val ≤ 102 then some (c.val - 87)
  else if 65 ≤ c.val ∧ c.val ≤ 70 then some (c.val - 55)
  else none

def first? (c : CodePoint) : Option Progress :=
  if c = CodePoint.ofChar '\\' ∨ c = CodePoint.ofChar '\'' ∨ c = CodePoint.ofChar '"' then
    some (.done c)
  else if c = CodePoint.ofChar 'n' then some (.done (CodePoint.ofChar '\n'))
  else if c = CodePoint.ofChar 'r' then some (.done (CodePoint.ofChar '\r'))
  else if c = CodePoint.ofChar 't' then some (.done (CodePoint.ofChar '\t'))
  else if c = CodePoint.ofChar 'x' then some (.more (.digits 2 0))
  else if c = CodePoint.ofChar 'u' then some (.more (.digits 4 0))
  else if c = CodePoint.ofChar 'U' then some (.more (.digits 8 0))
  else none

def Pending.step? : Pending → CodePoint → Option Progress
  | .start, c => first? c
  | .digits 0 _, _ => none
  | .digits 1 value, c => do
    let d ← hexValue? c
    return .done (← CodePoint.ofNat? (16 * value + d))
  | .digits (remaining + 2) value, c => do
    let d ← hexValue? c
    return .more (.digits (remaining + 1) (16 * value + d))

def endsLine (c : CodePoint) : Bool :=
  c = CodePoint.ofChar '\n' ∨ c = CodePoint.ofChar '\r'

end Stencil.Escape
