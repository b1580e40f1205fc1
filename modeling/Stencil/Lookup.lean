import Stencil.Value.Attribute
import Stencil.Value.Subscript

/-!
Looking up a key in a context: by equality in a mapping, by position in a sequence, by name among
the attributes of anything else. What is not there is nothing, never a fault. A mapping that has a
`get` of its own is asked by that instead, and may answer whatever it likes.
-/

namespace Stencil

/-- How a value is called on an argument from inside a call. -/
abbrev NestedCall := Value → Value → Action Value

namespace Value

/--
The position that a key means in a sequence: that of an integer that is no truth value, or of a
numeral.
-/
def lookupPosition? : Value → Option Int
  | .key (.int n) => some n
  | .key (.text t) => (Numeral.position? t).map Int.ofNat
  | .key (.strategy s) => (Numeral.position? s.name).map Int.ofNat
  | _ => none

end Value

inductive Sequence
  | members (vs : List Value)
  | range (start stop step : Int)

namespace Sequence

def size : Sequence → Nat
  | .members vs => vs.length
  | .range start stop step => rangeLength start stop step

def get? : Sequence → Nat → Option Value
  | .members vs, i => vs[i]?
  | .range start stop step, i =>
    if i < rangeLength start stop step then some (.int (start + i * step)) else none

/-- The member at a position from the front. The size is asked for only if it is not negative. -/
def lookup (q : Sequence) (key : Value) : Reading Value :=
  match key.lookupPosition? with
  | some (.ofNat n) =>
    if positionLimit ≤ q.size then throw .lengthLimit
    else return (q.get? n).getD .nothing
  | _ => return .nothing

end Sequence

namespace Value

def entries? (v : Value) : Reading (Option Entries) := do
  match v with
  | .object a =>
    match (← Reading.cell a) with
    | .mapping _ entries => return some entries
    | _ => return none
  | _ => return none

/-- The sequence that a value is. Strings are sequences too, and sets are none. -/
def sequence? (v : Value) : Reading (Option Sequence) := do
  match v with
  | .bytes bs => return some (.members (byteMembers bs))
  | .byteArray a => return some (.members (byteMembers (← Reading.bytes a)))
  | .range start stop step => return some (.range start stop step)
  | .object a =>
    match (← Reading.cell a) with
    | .list vs | .tuple vs | .deque vs => return some (.members vs)
    | _ => return none
  | v => return v.text?.map fun t => .members (textMembers t)

def lookupAttribute (context key : Value) : Reading Value := do
  match key.text? with
  | some name => return (← context.getAttribute? name).getD .nothing
  | none => return .nothing

/-- The value of a key in a context, or nothing, as the type of the context looks it up. -/
def typeLookup (context key : Value) : Reading Value := do
  match (← context.entries?) with
  | some entries => return (← find? entries key).getD .nothing
  | none =>
    match (← context.sequence?) with
    | some q => q.lookup key
    | none => context.lookupAttribute key

/-- The `get` that a mapping has in place of that of its type: given to it, or of its class. -/
def ownGet? (context : Value) : Reading (Option Value) := do
  let .object a := context | return none
  match (← Reading.cell a) with
  | .mapping form _ =>
    if form.isOpen then return (← context.givenAttribute? "get").or form.get?
    else return none
  | _ => return none

/-- Asks a context for a key, by the `get` of its own that it had when a template began to run. -/
def ask (nested : NestedCall) (get : Option Value) (context key : Value) : Action Value :=
  match get with
  | some get => nested get key
  | none => Reading.toAction (context.typeLookup key)

end Value
end Stencil
