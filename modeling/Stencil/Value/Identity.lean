import Stencil.Value

/-!
Identity of values: whether two values are one object.
-/

namespace Stencil

mutual

/--
Whether two callables are one: builtins are one of a kind, an operation is that of its owner, and
the rest carries an identity.
-/
def Callable.same : Callable → Callable → Bool
  | .builtin a, .builtin b => a = b
  | .routine a, .routine b => a = b
  | .template a _, .template b _ => a = b
  | .chain a .., .chain b .. => a = b
  | .tag a .., .tag b .. => a = b
  | .evaluator a .., .evaluator b .. => a = b
  | .operation v a, .operation w b => v.same w && a = b
  | _, _ => false

/-- Whether two values are one object. Values without identity are one when they are alike. -/
def Value.same : Value → Value → Bool
  | .nothing, .nothing => true
  | .key a, .key b => a = b
  | .complex a b, .complex c d => a = c ∧ b = d
  | .decimal a, .decimal b => a = b
  | .kind a, .kind b => a = b
  | .bytes a, .bytes b => a = b
  | .range a b c, .range d e f => a = d ∧ b = e ∧ c = f
  | .part a m, .part b n => a = b ∧ m = n
  | .foreign a m, .foreign b n => a = b ∧ m = n
  | .byteArray a, .byteArray b => a = b
  | .object a, .object b => a = b
  | .callable a, .callable b => a.same b
  | _, _ => false

end

end Stencil
