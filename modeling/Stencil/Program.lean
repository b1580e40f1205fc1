import Stencil.Value

/-!
The program that a template is compiled to: a check of the context, the binding of a lookup where
some item is a key, one assignment to a local for each item that contributes, and the text that
joins the locals.
-/

namespace Stencil

/-- Integers from here on are not written into the program: their numerals may be too long. -/
def inlineLimit : Nat := 1000000000000000000

inductive InlineKey
  | text (t : Text)
  | int (n : Int)
  | bool (b : Bool)
deriving DecidableEq

/-- Plain texts, truth values and integers that are short enough are written into the program. -/
def Key.inline? : Key → Option InlineKey
  | .text t => some (.text t)
  | .int n => if n.natAbs < inlineLimit then some (.int n) else none
  | .bool b => some (.bool b)
  | .strategy _ | .float _ => none

def InlineKey.key : InlineKey → Key
  | .text t => .text t
  | .int n => .int n
  | .bool b => .bool b

inductive Argument
  | inline (k : InlineKey)
  | item (index : Nat)
deriving DecidableEq

inductive Expression
  | get (argument : Argument)
  | item (index : Nat)
  | callItem (index : Nat)
deriving DecidableEq

structure Assignment where
  target : Nat
  expression : Expression
deriving DecidableEq

inductive Piece
  | fixed (t : Text)
  | field (target : Nat)
deriving DecidableEq

structure Program where
  bindsGetter : Bool
  assignments : List Assignment
  body : List Piece
deriving DecidableEq

def Slot.expression? (index : Nat) : Slot → Option Expression
  | .absent => none
  | .literal _ => some (.item index)
  | .callable _ => some (.callItem index)
  | .key k => some (.get (match k.inline? with
    | some i => .inline i
    | none => .item index))

def Slot.isKey : Slot → Bool
  | .key _ => true
  | _ => false

namespace Program

def assignmentsFrom (index : Nat) : List Text → List Slot → List Assignment
  | _ :: fragments, slot :: slots =>
    let rest := assignmentsFrom (index + 1) fragments slots
    match slot.expression? index with
    | some e => ⟨index, e⟩ :: rest
    | none => rest
  | _, _ => []

def bodyFrom (index : Nat) : List Text → List Slot → List Piece
  | [], _ => []
  | fragment :: fragments, [] => .fixed fragment :: bodyFrom (index + 1) fragments []
  | fragment :: fragments, slot :: slots =>
    let rest := bodyFrom (index + 1) fragments slots
    match slot.expression? index with
    | some _ => .fixed fragment :: .field index :: rest
    | none => .fixed fragment :: rest

def ofSlots (fragments : List Text) (slots : List Slot) : Program :=
  ⟨slots.any Slot.isKey, assignmentsFrom 0 fragments slots, bodyFrom 0 fragments slots⟩

end Program
end Stencil
