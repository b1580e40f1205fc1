import Stencil.Fault
import Stencil.Value.Imprint

/-!
The store of everything that changes: shared containers, counters, wrapped values and host routines,
together with the log and the supply of identities.

A reading looks at the store and may fail. An action changes it and may fail; what it changed before
it failed stays changed.
-/

namespace Stencil

/-- The kinds of mappings, equal to one another as far as reading their entries goes. -/
inductive MappingForm
  | plain
  | ordered
  /-- Makes a value for a key that it lacks, unless its factory is nothing. -/
  | withDefault (factory : Value)
  | proxy
  /-- Of a class of the host, which answers `get` in its own way. -/
  | hosted (className : Text) (get : Value)

namespace MappingForm

/-- Whether the mappings of a form take attributes. -/
def isOpen : MappingForm → Bool
  | .ordered | .hosted .. => true
  | _ => false

/-- The `get` that the class of a form has in place of the common one. -/
def get? : MappingForm → Option Value
  | .hosted _ get => some get
  | _ => none

end MappingForm

/-- Code of the host, step by step: what it is told on the way decides how it goes on. -/
inductive HostCode
  | done (outcome : Except Fault Value)
  | log (label : Text) (next : HostCode)
  /-- Looks at the entries of a mapping. -/
  | read (a : Address) (next : Entries → HostCode)
  /-- Gives a mapping other entries. -/
  | write (a : Address) (entries : Entries) (next : HostCode)
  /-- Gives a value an attribute, or takes one from it. -/
  | change (v : Value) (name : Text) (w : Option Value) (next : Except Fault Unit → HostCode)
  | call (v argument : Value) (next : Except Fault Value → HostCode)

inductive Behaviour
  | const (v : Value)
  | index (key : Value)
  | count
  | context
  | typeName
  | setItem (key v : Value)
  | append (v : Value)
  | raise (cls : ErrorClass) (message : Text)
  /-- Anything else; it may also be called on nothing. -/
  | code (body : Option Value → HostCode)

structure Routine where
  label : Option Text
  behaviour : Behaviour

structure FailingAttribute where
  name : Text
  cls : ErrorClass
  message : Text

inductive Cell
  | list (members : List Value)
  | tuple (members : List Value)
  | deque (members : List Value)
  | set (members : List StoredKey)
  | bytes (bs : List UInt8)
  | mapping (form : MappingForm) (entries : Entries)
  /-- A bare namespace of attributes, which are the entries of a mapping. -/
  | record (attributes : Address)
  /-- An object of the host with a text of its own. -/
  | plain (shown : Text) (attributes : Address) (failing : List FailingAttribute)
  /-- Its text is the number of times that its text was taken. -/
  | counter (taken : Nat)
  /-- A wrapped value, or a wrapper that lost it. -/
  | literal (v : Option Value)
  /-- A classified item, which has its kind and its value as attributes. -/
  | slot (attributes : Address)
  | routine (r : Routine) (calls : Nat)

/-- An attribute that was given to a value that is no record, or taken from it. -/
structure ExtraAttribute where
  owner : Value
  name : Text
  value : Option Value

structure Store where
  cells : Array Cell
  extras : List ExtraAttribute
  log : Array Text
  nextIdentity : Identity
  /-- The strategy of the process. -/
  strategy : Strategy
  /-- How many members the machine has room for at once. -/
  room : Nat

abbrev Reading (α : Type) := ReaderT Store (Except Fault) α

abbrev Action (α : Type) := ExceptT Fault (StateM Store) α

namespace Reading

def toExcept {α : Type} (r : Reading α) : Reading (Except Fault α) :=
  fun s => .ok (r s)

def toAction {α : Type} (r : Reading α) : Action α :=
  fun s => (r s, s)

instance : MonadLift Reading Action := ⟨toAction⟩

/-- The store is only ever asked for addresses that it gave out. -/
def cell (a : Address) : Reading Cell :=
  fun s => .ok (s.cells.getD a (.tuple []))

def bytes (a : Address) : Reading (List UInt8) := do
  match (← cell a) with
  | .bytes bs => return bs
  | _ => return []

def extras : Reading (List ExtraAttribute) :=
  fun s => .ok s.extras

/-- What was last done to an attribute of a value that keeps it in no mapping. -/
def extra? (v : Value) (name : Text) : Reading (Option ExtraAttribute) := do
  return (← extras).find? fun a => a.owner.same v && a.name = name

def entries (a : Address) : Reading Entries := do
  match (← cell a) with
  | .mapping _ entries => return entries
  | _ => return []

/-- The kind and the value of a classified item. The value is nothing if it was taken away. -/
def slotParts (attributes : Address) : Reading (Value × Value) := do
  let parts := (← entries attributes).texts
  match parts.lookup ("kind" : Text) with
  | some kind => return (kind, (parts.lookup ("value" : Text)).getD .nothing)
  | none => throw .missingKind

def room : Reading Nat :=
  fun s => .ok s.room

/-- An upper bound of the length of a chain of distinct addresses. -/
def depth : Reading Nat :=
  fun s => .ok s.cells.size

end Reading

namespace Action

/-- The outcome of an action as a value; what it changed stays changed. -/
def toExcept {α : Type} (a : Action α) : Action (Except Fault α) := fun s =>
  match a s with
  | (outcome, s) => (.ok outcome, s)

def alloc (c : Cell) : Action Address := do
  let s ← get
  set { s with cells := s.cells.push c }
  return s.cells.size

def newObject (c : Cell) : Action Value := do
  return .object (← alloc c)

def newAttributes (pairs : List (Text × Value)) : Action Address :=
  alloc (.mapping .plain (.ofTexts pairs))

def newSlot (s : Slot) : Action Value := do
  newObject (.slot (← newAttributes [("kind", .kind s.kind), ("value", s.value)]))

def write (a : Address) (c : Cell) : Action Unit :=
  modify fun s => { s with cells := s.cells.setIfInBounds a c }

def writeBytes (a : Address) (bs : List UInt8) : Action Unit := do
  match (← Reading.cell a) with
  | .bytes _ => write a (.bytes bs)
  | _ => return ()

/-- Gives the mapping at an address other entries; it stays of its form. -/
def writeEntries (a : Address) (entries : Entries) : Action Unit := do
  match (← Reading.cell a) with
  | .mapping form _ => write a (.mapping form entries)
  | _ => return ()

/-- The newest one goes first. -/
def addExtra (extra : ExtraAttribute) : Action Unit :=
  modify fun s => { s with extras := extra :: s.extras }

def log (label : Text) : Action Unit :=
  modify fun s => { s with log := s.log.push label }

def newIdentity : Action Identity := do
  let s ← get
  set { s with nextIdentity := s.nextIdentity + 1 }
  return s.nextIdentity

end Action
end Stencil
