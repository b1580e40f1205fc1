import Stencil.Text
import Stencil.Number.Binary64
import Stencil.Number.Decimal

/-!
The values that templates are built from and rendered with.

What can change or is told apart by identity lives in a store and is named by its address. A
callable is the tree of the callables it is made of, so that calling descends a finite tree; only
the counters and the behaviour of a host routine are in the store.
-/

namespace Stencil

inductive Strategy
  | generated
  | interpreted
deriving DecidableEq, Inhabited

inductive ItemKind
  | absent
  | literal
  | callable
  | key
deriving DecidableEq, Inhabited

inductive ConstantFamily
  | strategies
  | itemKinds
deriving DecidableEq

/-- The scalars that are looked up in a context. A strategy counts as a text. -/
inductive Key
  | text (t : Text)
  | strategy (s : Strategy)
  | int (n : Int)
  | bool (b : Bool)
  | float (x : Binary64)
deriving DecidableEq

/-- Callables that need no store: the length, the text, the truth of a value, and the wrapper. -/
inductive Builtin
  | length
  | text
  | truth
  | literal
  /-- Any other type of values, by the name of its home and its own. -/
  | type (home bare : Text)
  /-- A type of named constants. -/
  | constants (family : ConstantFamily)
deriving DecidableEq

abbrev Address := Nat

/-- Tells callables apart that were made one by one. -/
abbrev Identity := Nat

mutual

inductive Value
  | nothing
  | key (k : Key)
  | complex (re im : Binary64)
  | decimal (d : DecimalNumber)
  | kind (k : ItemKind)
  | bytes (bs : List UInt8)
  /-- A byte string that can change. -/
  | byteArray (a : Address)
  | range (start stop step : Int)
  /-- A part that the values of a type have, read from the type itself. -/
  | part (type : Builtin) (name : Text)
  /-- A thing of the host of which only its type and its text show. -/
  | foreign (type shown : Text)
  | object (a : Address)
  | callable (c : Callable)

inductive Callable
  | builtin (b : Builtin)
  /-- A function of the host. -/
  | routine (a : Address)
  | template (id : Identity) (body : Callable)
  | chain (id : Identity) (head : Callable) (delimiter : Text) (tail : Callable)
  /-- Waits for the fragments and items of a continuation. -/
  | tag (id : Identity) (receiver : Callable) (condition : Value) (delimiter : Text)
  | evaluator (id : Identity) (strategy : Strategy) (fragments : List Text) (slots : List Slot)
  /-- An operation of a value, read as one of its attributes. -/
  | operation (owner : Value) (name : Text)

inductive Slot
  | absent
  | literal (v : Value)
  | callable (c : Callable)
  | key (k : Key)

end

instance : Inhabited Value := ⟨.nothing⟩
instance : Inhabited Slot := ⟨.absent⟩

namespace Strategy

def name : Strategy → Text
  | .generated => "generated"
  | .interpreted => "interpreted"

def constant : Strategy → Text
  | .generated => "GENERATED"
  | .interpreted => "INTERPRETED"

end Strategy

namespace ItemKind

def name : ItemKind → Text
  | .absent => "absent"
  | .literal => "literal"
  | .callable => "callable"
  | .key => "key"

def constant : ItemKind → Text
  | .absent => "ABSENT"
  | .literal => "LITERAL"
  | .callable => "CALLABLE"
  | .key => "KEY"

end ItemKind

namespace Key

def text? : Key → Option Text
  | .text t => some t
  | .strategy s => some s.name
  | _ => none

end Key

namespace Value

def text (t : Text) : Value := .key (.text t)
def int (n : Int) : Value := .key (.int n)
def bool (b : Bool) : Value := .key (.bool b)
def float (x : Binary64) : Value := .key (.float x)
def strategy (s : Strategy) : Value := .key (.strategy s)

def isNothing : Value → Bool
  | .nothing => true
  | _ => false

def text? : Value → Option Text
  | .key k => k.text?
  | _ => none

/-- Whether a value can be used as a render context: no scalar, no string, no callable. -/
def isStructured : Value → Bool
  | .nothing | .key _ | .complex .. | .decimal _ | .bytes _ | .byteArray _ | .callable _ => false
  | .kind _ | .range .. | .part .. | .foreign .. | .object _ => true

def isString : Value → Bool
  | .key k => k.text?.isSome
  | .bytes _ | .byteArray _ => true
  | _ => false

def callable? : Value → Option Callable
  | .callable c => some c
  | _ => none

end Value

namespace Slot

def kind : Slot → ItemKind
  | .absent => .absent
  | .literal _ => .literal
  | .callable _ => .callable
  | .key _ => .key

def value : Slot → Value
  | .absent => .nothing
  | .literal v => v
  | .callable c => .callable c
  | .key k => .key k

end Slot

/-- The slot of an item: by its type alone, whatever it holds. -/
def Value.classify : Value → Slot
  | .nothing => .absent
  | .callable c => .callable c
  | .key k => .key k
  | v => .literal v

@[simp] theorem Value.value_classify (v : Value) : v.classify.value = v := by
  cases v <;> rfl

end Stencil
