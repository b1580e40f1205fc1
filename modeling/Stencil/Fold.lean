import Stencil.Host

/-!
Rendering without a program: a fold over the fragments, each with the item that follows it.
-/

namespace Stencil.Fold

/-- Two lists side by side, the shorter one padded. -/
def zipLongest {α β : Type} : List α → List β → List (Option α × Option β)
  | [], bs => bs.map fun b => (none, some b)
  | a :: as, bs => (some a, bs.head?) :: zipLongest as bs.tail

variable {m : Type → Type} [Monad m]

def contribution (host : Host m) (b : Bound m) (context : Value) : m Text :=
  match b.slot with
  | .absent => return []
  | .literal v => host.text v
  | .callable _ => do host.contribution (← b.call context)
  | .key k => do host.contribution (← host.lookup context (.key k))

variable [MonadExceptOf Fault m]

def step (host : Host m) (context : Value) (text : Text) :
    Option Text × Option (Bound m) → m Text
  | (some fragment, some b) => return text ++ fragment ++ (← contribution host b context)
  | (some fragment, none) => return text ++ fragment
  | (none, _) => throw .slotWithoutFragment

def run (host : Host m) (fragments : List Text) (items : List (Bound m)) (context : Value) :
    m Text := do
  host.requireStructured context
  (zipLongest fragments items).foldlM (step host context) []

end Stencil.Fold
