import Stencil.Value.Iteration
import Stencil.Value.Text

/-!
Members by position or key: reading, replacing and adding them, and the number of members.
-/

namespace Stencil

/-- A key that is an integer; truth values are. -/
def Value.position? : Value → Option Int
  | .key (.int n) => some n
  | .key (.bool b) => some (if b then 1 else 0)
  | _ => none

/-- The index meant by a position, which counts from the end when it is negative. -/
def normalPosition? (position : Int) (length : Nat) : Option Nat :=
  let n := if position < 0 then position + length else position
  if 0 ≤ n ∧ n < length then some n.toNat else none

def boundedPosition (n : Int) : Reading Int :=
  if n < -positionLimit ∨ (positionLimit : Int) ≤ n then throw .positionLimit else return n

namespace SequenceKind

/-- The position that a key is. Only ranges take positions of any size. -/
def position (kind : SequenceKind) (key : Value) : Reading Int := do
  match key.position? with
  | none => throw (.positionType kind (← key.fullTypeName))
  | some n => if kind = .range then return n else boundedPosition n

def place (kind : SequenceKind) (assigning : Bool) (position : Int) (length : Nat) :
    Reading Nat :=
  match normalPosition? position length with
  | some i => return i
  | none => throw (.positionRange kind assigning)

def index (kind : SequenceKind) (assigning : Bool) (key : Value) (length : Nat) :
    Reading Nat := do
  kind.place assigning (← kind.position key) length

def member (kind : SequenceKind) (key : Value) (members : List Value) : Reading Value := do
  return members.getD (← kind.index false key members.length) .nothing

end SequenceKind

def Value.subscriptFault (v : Value) : Reading Fault := do
  match v with
  | .callable (.builtin b) =>
    match b.className? with
    | some name => return .classNotSubscriptable name
    | none => return .notSubscriptable (← v.fullTypeName)
  | v => return .notSubscriptable (← v.fullTypeName)

def Cell.cleared? : Cell → Option Cell
  | .list _ => some (.list [])
  | .deque _ => some (.deque [])
  | .set _ => some (.set [])
  | .bytes _ => some (.bytes [])
  | .mapping .proxy _ => none
  | .mapping form _ => some (.mapping form [])
  | _ => none

namespace Value

/-- The value of a mapping under a key; a key that is not there is a fault. -/
def entry (entries : Entries) (key : Value) : Reading Value := do
  match (← find? entries key) with
  | some v => return v
  | none => throw (.missingKey (← key.repr))

end Value

namespace ConstantFamily

def named (family : ConstantFamily) (key : Value) : Reading Value := do
  Value.entry (.ofTexts family.constants) key

/-- The constant that stands for a value, or is the value itself. -/
def meant (family : ConstantFamily) (v : Value) : Reading Value := do
  if family.members.any v.same then return v
  let found ← (Value.find? (.ofTexts family.meanings) v).toExcept
  match found with
  | .ok (some constant) => return constant
  | .ok none | .error (.unhashable _) => throw (.noConstant (← v.repr) family.name)
  | .error f => throw f

end ConstantFamily

namespace Value

def getItem (v key : Value) : Reading Value := do
  match v with
  | .bytes bs => SequenceKind.bytes.member key (byteMembers bs)
  | .byteArray a => SequenceKind.byteArray.member key (byteMembers (← Reading.bytes a))
  | .range start stop step => do
    let i ← SequenceKind.range.index false key (rangeLength start stop step)
    return .int (start + i * step)
  | .object a =>
    match (← Reading.cell a) with
    | .list members => SequenceKind.list.member key members
    | .tuple members => SequenceKind.tuple.member key members
    | .deque members => SequenceKind.deque.member key members
    | .mapping _ entries => entry entries key
    | _ => throw (← v.subscriptFault)
  | .callable (.builtin (.constants family)) => family.named key
  | v =>
    match v.text? with
    | some t => SequenceKind.text.member key (textMembers t)
    | none => throw (← v.subscriptFault)

/-- The factory of a mapping, with the entries that it is to fill, if it has one. -/
def factory? (v : Value) : Reading (Option (Value × Entries)) := do
  let .object a := v | return none
  match (← Reading.cell a) with
  | .mapping (.withDefault .nothing) _ => return none
  | .mapping (.withDefault factory) entries => return some (factory, entries)
  | _ => return none

def integer (v : Value) : Reading Int := do
  match v.position? with
  | some n => return n
  | none => throw (.integerType (← v.fullTypeName))

def byte (v : Value) : Reading UInt8 := do
  let n ← v.integer
  if 0 ≤ n ∧ n < 256 then return UInt8.ofNat n.toNat else throw .byteRange

/-- Whether a value that takes no members still reads the key as a position first. -/
def readsPosition (v : Value) : Reading Bool := do
  match v with
  | .key (.text _) | .key (.strategy _) | .kind _ | .bytes _ | .range .. => return true
  | .callable (.routine _) | .callable (.template ..) | .callable (.chain ..) => return true
  | .object a =>
    match (← Reading.cell a) with
    | .record _ => return false
    | _ => return true
  | _ => return false

def assignmentFault (v key : Value) : Reading Fault := do
  if (← v.readsPosition) then
    match key.position? with
    | some n => discard (boundedPosition n)
    | none => pure ()
  return .noItemAssignment (← v.fullTypeName)

def setItem (v key w : Value) : Action Unit := do
  match v with
  | .byteArray a =>
    let n ← SequenceKind.byteArray.position key
    let b ← w.byte
    let bs ← Reading.bytes a
    let i ← SequenceKind.byteArray.place true n bs.length
    Action.writeBytes a (bs.set i b)
  | .object a =>
    match (← Reading.cell a) with
    | .list members =>
      let i ← SequenceKind.list.index true key members.length
      Action.write a (.list (members.set i w))
    | .deque members =>
      let i ← SequenceKind.deque.index true key members.length
      Action.write a (.deque (members.set i w))
    | .mapping .proxy _ => throw (← v.assignmentFault key)
    | .mapping form entries =>
      Action.write a (.mapping form (← entries.insert key w))
    | _ => throw (← v.assignmentFault key)
  | v => throw (← v.assignmentFault key)

/-- Adds a member at the end of a container that grows there; false for any other value. -/
def append (v w : Value) : Action Bool := do
  match v with
  | .byteArray a =>
    let b ← w.byte
    Action.writeBytes a ((← Reading.bytes a) ++ [b])
    return true
  | .object a =>
    match (← Reading.cell a) with
    | .list members =>
      Action.write a (.list (members ++ [w]))
      return true
    | .deque members =>
      Action.write a (.deque (members ++ [w]))
      return true
    | _ => return false
  | _ => return false

def clear (v : Value) : Action Bool := do
  match v with
  | .byteArray a | .object a =>
    match (← Reading.cell a).cleared? with
    | some c =>
      Action.write a c
      return true
    | none => return false
  | _ => return false

def memberCount (v : Value) : Reading Nat := do
  match v with
  | .range start stop step => return rangeLength start stop step
  | .bytes bs => return bs.length
  | .byteArray a => return (← Reading.bytes a).length
  | .object a =>
    match (← Reading.cell a) with
    | .list members | .tuple members | .deque members => return members.length
    | .set members => return members.length
    | .mapping _ entries => return entries.length
    | _ => throw (.noLength (← v.fullTypeName))
  | .callable (.builtin (.constants family)) => return family.members.length
  | v =>
    match v.text? with
    | some t => return t.length
    | none => throw (.noLength (← v.fullTypeName))

/-- The number of members, unless nothing can be that long. -/
def length (v : Value) : Reading Nat := do
  let n ← v.memberCount
  if n < positionLimit then return n else throw .lengthLimit

end Value
end Stencil
