import Stencil.Lookup
import Stencil.Value.Text

/-!
What a running template asks of the world around it. Running is written for every such world; the
store is the one that templates are called in.
-/

namespace Stencil

/-- The answers of a world: the name of a type, the value of a key in a context, a text. -/
structure Host (m : Type → Type) where
  typeName : Value → m Text
  lookup : (context key : Value) → m Value
  text : Value → m Text

/-- An item as a running template sees it: its slot, and how it is called. -/
structure Bound (m : Type → Type) where
  slot : Slot
  call : Value → m Value

namespace Host

/-- The world of the store, for a template that has bound how its context is asked for keys. -/
def store (nested : NestedCall) (get : Option Value) : Host Action where
  typeName v := Reading.toAction v.bareTypeName
  lookup context key := context.ask nested get key
  text v := v.toText

variable {m : Type → Type} [Monad m]

/-- The text that a value contributes to a rendered template: that of nothing is empty. -/
def contribution (host : Host m) : Value → m Text
  | .nothing => return []
  | v => host.text v

def requireStructured [MonadExceptOf Fault m] (host : Host m) (context : Value) : m Unit := do
  if ¬ context.isStructured then
    throw (.invalidContext context (← host.typeName context))

end Host

def Bound.value {m : Type → Type} (b : Bound m) : Value :=
  b.slot.value

def Value.contribution : Value → Action Text
  | .nothing => return []
  | v => v.toText

@[simp] theorem Host.contribution_store (nested : NestedCall) (get : Option Value) (v : Value) :
    (Host.store nested get).contribution v = v.contribution := by
  cases v <;> rfl

end Stencil
