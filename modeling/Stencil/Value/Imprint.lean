import Stencil.Number.Residue
import Stencil.Text.Encoding.Flaw
import Stencil.Value.Identity

/-!
What keys leave behind when they are stored. A mapping finds an entry by the imprint of its key, so
an entry whose key has changed since is found neither by what the key was nor by what it is.
-/

namespace Stencil

/-- Equal keys leave equal imprints, whatever their types. -/
inductive Imprint
  | number (residue : Int)
  | text (t : Text)
  | nothing
  /-- A value that is equal to itself only. -/
  | identity (v : Value)
  | parts (ps : List Imprint)

namespace Imprint

/-- An empty text leaves the imprint of zero. -/
def ofText (t : Text) : Imprint :=
  if t = [] then .number 0 else .text t

/-- Bytes leave the imprint of the text of the code points with the same numbers. -/
def ofBytes (bs : List UInt8) : Imprint :=
  ofText (bs.map fun b => Encoding.codePoint b.toNat)

def ofInt (n : Int) : Imprint :=
  .number (Residue.ofInt n)

mutual

def agrees : Imprint → Imprint → Bool
  | .number m, .number n => m = n
  | .text s, .text t => s = t
  | .nothing, .nothing => true
  | .identity v, .identity w => v.same w
  | .parts ps, .parts qs => allAgree ps qs
  | _, _ => false

def allAgree : List Imprint → List Imprint → Bool
  | [], [] => true
  | p :: ps, q :: qs => p.agrees q && allAgree ps qs
  | _, _ => false

end

end Imprint

def Key.imprint : Key → Imprint
  | .text t => .ofText t
  | .strategy s => .ofText s.name
  | .int n => .ofInt n
  | .bool b => .ofInt (if b then 1 else 0)
  | .float x =>
    match x.residue? with
    | some n => .number n
    | none => .identity (.float x)

def Callable.imprint : Callable → Imprint
  | .chain _ head delimiter tail =>
    .parts [head.imprint, .ofText delimiter, tail.imprint]
  | c => .identity (.callable c)

/-- The imprint of a range of a length: what cannot be told from its members does not count. -/
def Imprint.ofRange (length : Nat) (start step : Int) : Imprint :=
  .parts [.ofInt length, if length = 0 then .nothing else .ofInt start,
    if length ≤ 1 then .nothing else .ofInt step]

def Value.isComparable : Value → Bool
  | .decimal d => !d.isSignaling
  | _ => true

/-- A key with the imprint that it left when it was stored. -/
structure StoredKey where
  key : Value
  imprint : Imprint
  comparable : key.isComparable

/-- The entries of a mapping, in the order in which their keys were stored. -/
abbrev Entries := List (StoredKey × Value)

namespace Entries

def ofTexts (pairs : List (Text × Value)) : Entries :=
  pairs.map fun (t, v) => (⟨.text t, .ofText t, rfl⟩, v)

def texts (entries : Entries) : List (Text × Value) :=
  entries.filterMap fun (k, v) => k.key.text?.map (·, v)

end Entries

end Stencil
