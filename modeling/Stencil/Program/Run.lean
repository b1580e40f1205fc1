import Stencil.Host
import Stencil.Program

/-!
Running a program on the items it is bound to. Its statements run in order, and a name or a position
that is not there is a fault of the run.
-/

namespace Stencil

abbrev Locals := List (Nat × Text)

namespace Program

variable {m : Type → Type} [Monad m] [MonadExceptOf Fault m]

def boundItem (items : List (Bound m)) (index : Nat) : m (Bound m) :=
  match items[index]? with
  | some b => return b
  | none => throw (.itemRange index)

def argument (items : List (Bound m)) : Argument → m Value
  | .inline k => return .key k.key
  | .item index => return (← boundItem items index).value

def evaluate (host : Host m) (bindsGetter : Bool) (items : List (Bound m)) (context : Value) :
    Expression → m Value
  | .get a =>
    if bindsGetter then do
      let key ← argument items a
      host.lookup context key
    else throw (.unboundName "get")
  | .item index => return (← boundItem items index).value
  | .callItem index => do (← boundItem items index).call context

def assign (host : Host m) (bindsGetter : Bool) (items : List (Bound m)) (context : Value) :
    Locals → List Assignment → m Locals
  | bindings, [] => return bindings
  | bindings, a :: rest => do
    let t ← host.contribution (← evaluate host bindsGetter items context a.expression)
    assign host bindsGetter items context (bindings ++ [(a.target, t)]) rest

def pieceText (bindings : Locals) : Piece → m Text
  | .fixed t => return t
  | .field target =>
    match bindings.lookup target with
    | some t => return t
    | none => throw (.unboundName (CodePoint.ofChar 's' :: Numeral.decimal target))

def joinPieces (bindings : Locals) : List Piece → m Text
  | [] => return []
  | p :: rest => do
    let t ← pieceText bindings p
    return t ++ (← joinPieces bindings rest)

def run (host : Host m) (p : Program) (items : List (Bound m)) (context : Value) : m Text := do
  host.requireStructured context
  joinPieces (← assign host p.bindsGetter items context [] p.assignments) p.body

end Program
end Stencil
