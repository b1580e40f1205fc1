import Stencil.Value.Equality
import Stencil.Value.Repr

/-!
The members of a value in order, where it has any.
-/

namespace Stencil

/-- Positions and lengths are below this bound. -/
def positionLimit : Nat := 0x8000000000000000

def rangeMembers (count : Nat) (start stop step : Int) : List Value :=
  (List.range (min count (rangeLength start stop step))).map fun (i : Nat) =>
    .int (start + i * step)

/-- Refuses a length that nothing can have, and one that the machine has no room for. -/
def requireRoom (length : Nat) : Reading Unit := do
  if positionLimit ≤ length then throw .lengthLimit
  if (← Reading.room) < length then throw .noRoom

def textMembers (t : Text) : List Value :=
  t.map fun c => .text [c]

def byteMembers (bs : List UInt8) : List Value :=
  bs.map fun b => .int b.toNat

namespace Entries

/--
The keys in order, for so many steps. Each key is looked for to go on from there, which leads astray
if keys have changed, and may lead around without end.
-/
def walk (entries : Entries) : (steps : Nat) → (ahead : Entries) → Reading (List Value)
  | _, [] => return []
  | 0, _ => throw .noRoom
  | steps + 1, (k, _) :: _ => do
    match (← seek Value.equal (← k.key.asKey) entries) with
    | [] => throw (.missingKey (← Cell.lostKeyText Value.repr k.key))
    | _ :: ahead => return k.key :: (← walk entries steps ahead)

/-- The keys of a mapping of a form. Only an ordered one looks for them. -/
def keys (form : MappingForm) (entries : Entries) : Reading (List Value) :=
  match form with
  | .ordered => walk entries entries.length entries
  | _ => return entries.map (·.1.key)

end Entries

namespace Value

def members (v : Value) : Reading (List Value) := do
  match v with
  | .bytes bs => return byteMembers bs
  | .byteArray a => return byteMembers (← Reading.bytes a)
  | .range start stop step =>
    let n := rangeLength start stop step
    requireRoom n
    return rangeMembers n start stop step
  | .object a =>
    match (← Reading.cell a) with
    | .list members | .tuple members | .deque members => return members
    | .set members => return members.map (·.key)
    | .mapping form entries => entries.keys form
    | _ => throw (.notIterable (← v.fullTypeName))
  | .callable (.builtin (.constants family)) => return family.members
  | v =>
    match v.text? with
    | some t => return textMembers t
    | none => throw (.notIterable (← v.fullTypeName))

/-- The first members of a value that has room for all of them, at most so many. -/
def firstMembers (count : Nat) (v : Value) : Reading (List Value) := do
  match v with
  | .range start stop step =>
    requireRoom (rangeLength start stop step)
    return rangeMembers count start stop step
  | v => return (← v.members).take count

/-- Goes through the members of a value as the arguments for a function. -/
def spread (function : Text) (v : Value) : Reading Unit := fun s =>
  match v.firstMembers 0 s with
  | .ok _ => .ok ()
  | .error (.notIterable typeName) => .error (.spreadArguments function typeName)
  | .error f => .error f

end Value
end Stencil
