import Stencil.Number.Product
import Stencil.Number.Scan
import Stencil.Value.Subscript

/-!
Values made from what a caller writes: numbers from their texts, ranges from their bounds, sequences
from a shorter one, and products. Each says why what was written does not make one.
-/

namespace Stencil

namespace Numeral

/-- Reads an integer. Its digits are counted before it is looked at what follows them. -/
def scan (t : Text) : Except Fault Int :=
  match digitCount? t with
  | some n => if digitLimit < n then .error (.integerDigits n) else whole
  | none => whole
where
  whole : Except Fault Int :=
    match integer? t with
    | some n => .ok n
    | none => .error (.integerText t)

end Numeral

def Binary64.scan (tag : Nat) (t : Text) : Except Fault Binary64 :=
  match ofText? tag t with
  | some x => .ok x
  | none => .error (.floatText t)

/-- Reads a decimal number, whose exponents have to be in range. -/
def DecimalNumber.scan (tag : Nat) (t : Text) : Except Fault DecimalNumber :=
  match ofText? tag t with
  | some d => if d.inRange then .ok d else .error .decimalRange
  | none => .error .decimalText

namespace Value

/-- A range by where it stops, or by where it starts and stops, or with a step that is not zero. -/
def rangeOf : List Value → Reading Value
  | [stop] => return .range 0 (← stop.integer) 1
  | [start, stop] => return .range (← start.integer) (← stop.integer) 1
  | [start, stop, step] => do
    let start ← start.integer
    let stop ← stop.integer
    let step ← step.integer
    if step = 0 then throw .rangeStep else return .range start stop step
  | bounds => throw (.rangeArguments bounds.length)

/-- How often a sequence comes in a row. A negative number counts as none. -/
def repetitions (count : Int) : Reading Nat :=
  if count < -positionLimit ∨ (positionLimit : Int) ≤ count then throw .repetitionLimit
  else return count.toNat

def times {α : Type} (tooLong : Fault) (count : Nat) (members : List α) : Reading (List α) := do
  let length := count * members.length
  if length = 0 then return []
  if positionLimit ≤ length then throw tooLong
  if (← Reading.room) < length then throw .noRoom
  return (List.replicate count members).flatten

def factor (n : Int) : Reading Binary64 :=
  match Binary64.ofInt? n with
  | some x => return x
  | none => throw .factorLimit

/-- The product of a key with an integer: a text that often in a row, or a number. -/
def timesKey (tag : Nat) (count : Int) : Key → Reading Value
  | .int n => return .int (n * count)
  | .bool b => return .int (if b then count else 0)
  | .float x => do return .float (x.mul tag (← factor count))
  | k => do
    let n ← repetitions count
    return .text (← times .repeatedText n (k.text?.getD []))

/-- An object whose members come a number of times in a row. One tuple in a row is that tuple. -/
def timesObject (a : Address) (count : Int) : Action Value := do
  match (← Reading.cell a) with
  | .list members =>
    let n ← repetitions count
    Action.newObject (.list (← times .noRoom n members))
  | .tuple members =>
    let n ← repetitions count
    if n = 1 then return .object a
    Action.newObject (.tuple (← times .noRoom n members))
  | .deque members =>
    let n ← repetitions count
    Action.newObject (.deque (← times .noRoom n members))
  | c => throw (.notRepeatable c.typeName.full)

def repeated (v : Value) (count : Int) : Action Value := do
  match v with
  | .key k => timesKey (← Action.newIdentity) count k
  | .complex re im =>
    let tags := (← Action.newIdentity, ← Action.newIdentity)
    let (re, im) := Binary64.complexProduct tags re im (← factor count)
    return .complex re im
  | .decimal d =>
    match d.timesInt? count with
    | some d => return .decimal d
    | none => throw .decimalRange
  | .bytes bs => return .bytes (← times .repeatedBytes (← repetitions count) bs)
  | .byteArray a =>
    let bs ← times .noRoom (← repetitions count) (← Reading.bytes a)
    return .byteArray (← Action.alloc (.bytes bs))
  | .object a => timesObject a count
  | v => throw (.notRepeatable (← v.fullTypeName))

/-- Whether there is only one value of its content, however often it is made. -/
def isMadeOnce : Value → Bool
  | .key (.text []) => true
  | .key (.text [c]) => c.val < 256
  | .key (.int n) => -5 ≤ n ∧ n ≤ 256
  | .bytes bs => bs.length ≤ 1
  | .key (.text _) | .key (.float _) | .complex .. | .decimal _ | .range .. => false
  | _ => true

def isEmptyTuple (v : Value) : Reading Bool := do
  let .object a := v | return false
  match (← Reading.cell a) with
  | .tuple [] => return true
  | _ => return false

/-- Whether two values are one. Values that were made apart are two even if they are alike. -/
def isOne (v w : Value) (madeApart : Bool) : Reading Bool := do
  if v.same w then return !madeApart || v.isMadeOnce
  else return (← v.isEmptyTuple) && (← w.isEmptyTuple)

end Value
end Stencil
