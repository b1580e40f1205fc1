import Stencil.Program.Source
import Stencil.Text.Quoted.Reader

/-!
Reading a key in the source of a program back.
-/

namespace Stencil

namespace Numeral

def decimal? (t : Text) : Option Nat :=
  match t with
  | [] => none
  | c :: rest => if c = CodePoint.ofChar '0' ∧ rest ≠ [] then none else ofDigits? t

def signed? (t : Text) : Option Int :=
  match t with
  | [] => none
  | c :: rest =>
    if c = CodePoint.ofChar '-' then (decimal? rest).map fun n => -(n : Int)
    else (decimal? t).map fun n => (n : Int)

end Numeral

/-- The key that an expression stands for: a truth value, a numeral, or a text literal. -/
def InlineKey.ofSource? (t : Text) : Option InlineKey :=
  if t = "True" then some (.bool true)
  else if t = "False" then some (.bool false)
  else match Numeral.signed? t with
    | some n => some (.int n)
    | none => (Quoted.read? t).map .text

end Stencil
