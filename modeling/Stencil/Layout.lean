import Stencil.Value.Iteration

/-!
The layout of a template: its fragments, and the slots of the items that follow them. There are at
most as many slots as fragments.
-/

namespace Stencil

/-- A piece of literal text, as it was given. -/
inductive Fragment
  | plain (t : Text)
  | strategy (s : Strategy)

namespace Fragment

def text : Fragment → Text
  | .plain t => t
  | .strategy s => s.name

def value : Fragment → Value
  | .plain t => .text t
  | .strategy s => .strategy s

def ofValue? : Value → Option Fragment
  | .key (.text t) => some (.plain t)
  | .key (.strategy s) => some (.strategy s)
  | _ => none

def textOf (v : Value) : Reading Text := do
  match ofValue? v with
  | some f => return f.text
  | none => if v.isString then throw .bytesForText else throw (.textType (← v.fullTypeName))

end Fragment

structure Layout where
  fragments : List Fragment
  slots : List Slot

namespace Layout

/-- The fragments from an index on; the first member that is no text is a fault. -/
def fragmentsFrom (index : Nat) : List Value → Reading (List Fragment)
  | [] => return []
  | v :: rest => do
    match Fragment.ofValue? v with
    | some f => return f :: (← fragmentsFrom (index + 1) rest)
    | none => throw (.fragmentType index (← v.bareTypeName))

/-- The members that are to be fragments. No member of a range is a text, so its first one tells. -/
def fragmentMembers (v : Value) : Reading (List Value) :=
  match v with
  | .range .. => v.firstMembers 1
  | v => v.members

def firstItems (count : Nat) : Option Value → Reading (List Value)
  | some v => v.firstMembers count
  | none => return []

/-- Copies the fragments and classifies the items that have a fragment before them. -/
def prepare (fragments : Value) (items : Option Value) : Reading Layout := do
  if fragments.isString then throw .singleString
  let fragments ← fragmentsFrom 0 (← fragmentMembers fragments)
  let items ← firstItems fragments.length items
  return ⟨fragments, items.map Value.classify⟩

def texts (l : Layout) : List Text :=
  l.fragments.map Fragment.text

end Layout
end Stencil
