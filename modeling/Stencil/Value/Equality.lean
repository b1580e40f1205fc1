import Stencil.Number.Extended
import Stencil.Value.Truth
import Stencil.Value.TypeName

/-!
Equality of values, and the values that can be the key of a mapping.

Numbers are equal by value across all their types, and wrapped values if what they wrap is. Host
objects and callables other than chains are equal to themselves only.
-/

namespace Stencil

def Key.number? : Key → Option ExtendedReal
  | .int n => some (.finite (.ofInt n))
  | .bool b => some (.finite (.ofInt (if b then 1 else 0)))
  | .float x => some x.extended
  | _ => none

def Key.equal (a b : Key) : Bool :=
  match a.number?, b.number? with
  | some x, some y => x.equal y
  | _, _ =>
    match a.text?, b.text? with
    | some s, some t => s = t
    | _, _ => false

def Value.number? : Value → Option (ExtendedReal × ExtendedReal)
  | .key k => k.number?.map (·, .finite (.ofInt 0))
  | .complex re im => some (re.extended, im.extended)
  | .decimal d => some (d.extended, .finite (.ofInt 0))
  | _ => none

/-- Chains are equal by their parts, all other callables by identity. -/
def Callable.equal : Callable → Callable → Bool
  | .chain a head delimiter tail, .chain b head' delimiter' tail' =>
    a = b || (head.equal head' && delimiter = delimiter' && tail.equal tail')
  | c, d => c.same d

/-- Ranges are equal by their members. -/
def rangeEqual (a b c d e f : Int) : Bool :=
  let m := rangeLength a b c
  m = rangeLength d e f && (m = 0 || (a = d && (m = 1 || c = f)))

/-- Compares lists member by member and stops at the first difference. -/
def listEqual (equal : Value → Value → Reading Bool) : List Value → List Value → Reading Bool
  | [], [] => return true
  | a :: as, b :: bs => do
    if a.same b then listEqual equal as bs
    else if (← equal a b) then listEqual equal as bs
    else return false
  | _, _ => return false

/-- Whether a stored key is the wanted one: their imprints agree, and they are one or equal. -/
def StoredKey.fits (equal : Value → Value → Reading Bool) (stored wanted : StoredKey) :
    Reading Bool := do
  if stored.imprint.agrees wanted.imprint then
    if stored.key.same wanted.key then return true else equal stored.key wanted.key
  else return false

/-- The entries from the first one on whose key is the wanted one. -/
def seek (equal : Value → Value → Reading Bool) (wanted : StoredKey) :
    Entries → Reading Entries
  | [] => return []
  | (k, v) :: rest => do
    if (← k.fits equal wanted) then return (k, v) :: rest else seek equal wanted rest

def findEntry? (equal : Value → Value → Reading Bool) (wanted : StoredKey) (entries : Entries) :
    Reading (Option Value) := do
  return (← seek equal wanted entries).head?.map Prod.snd

def entriesWithin (equal : Value → Value → Reading Bool) (other : Entries) :
    Entries → Reading Bool
  | [] => return true
  | (k, v) :: rest => do
    match (← findEntry? equal k other) with
    | none => return false
    | some w =>
      if v.same w then entriesWithin equal other rest
      else if (← equal v w) then entriesWithin equal other rest
      else return false

namespace MappingForm

/--
Whether two mappings are compared entry by entry of the second one: a form of its own goes before
the common one, and the common one before one that lets nothing be changed.
-/
def walksSecond : MappingForm → MappingForm → Bool
  | .plain, .ordered | .plain, .withDefault _ | .plain, .hosted .. | .plain, .proxy => true
  | .proxy, .ordered | .proxy, .withDefault _ | .proxy, .hosted .. => true
  | _, _ => false

def isOrdered : MappingForm → Bool
  | .ordered => true
  | _ => false

end MappingForm

namespace Cell

/-- Whether nothing has to be compared to tell that an object equals itself. -/
def isSelfEqual : Cell → Bool
  | .literal _ | .slot _ | .set _ | .mapping .. => false
  | _ => true

def equalWith (equal : Value → Value → Reading Bool) : Cell → Cell → Reading Bool
  | .list as, .list bs | .deque as, .deque bs =>
    if as.length = bs.length then listEqual equal as bs else return false
  | .tuple as, .tuple bs => listEqual equal as bs
  | .set as, .set bs =>
    if as.length = bs.length then entriesWithin equal (bs.map (·, .nothing)) (as.map (·, .nothing))
    else return false
  | .mapping f as, .mapping g bs => do
    if as.length ≠ bs.length then return false
    let within ← if f.walksSecond g then entriesWithin equal as bs else entriesWithin equal bs as
    if within && f.isOrdered && g.isOrdered then
      listEqual equal (as.map (·.1.key)) (bs.map (·.1.key))
    else return within
  | .record a, .record b => do
    let as ← Reading.entries a
    let bs ← Reading.entries b
    if as.length = bs.length then entriesWithin equal bs as else return false
  | .slot a, .slot b => do
    let (kind, v) ← Reading.slotParts a
    let (kind', w) ← Reading.slotParts b
    listEqual equal [kind, v] [kind', w]
  | .literal (some v), .literal (some w) => equal v w
  | .literal _, .literal _ => throw .missingValue
  | _, _ => return false

end Cell

namespace Value

/-- Equality of numbers; a number that refuses to be compared only says so to real numbers. -/
def numbersEqual : Option (ExtendedReal × ExtendedReal) → Option (ExtendedReal × ExtendedReal) →
    Reading Bool
  | some (a, b), some (c, d) =>
    if (a.isSignaling || c.isSignaling) && b.isZero && d.isZero then throw .signalingComparison
    else return a.equal c && b.equal d
  | _, _ => return false

/--
Equality to a depth of objects. An object equals itself, but for a wrapper, whose value need not,
and for what looks for its own keys, which may have changed.
-/
def equalWithin : (depth : Nat) → Value → Value → Reading Bool
  | _, .nothing, .nothing => return true
  | _, .kind a, .kind b => return a = b
  | _, .key a, .key b => return a.equal b
  | _, .bytes as, .bytes bs => return as = bs
  | _, .byteArray a, .bytes bs | _, .bytes bs, .byteArray a => return (← Reading.bytes a) = bs
  | _, .byteArray a, .byteArray b => return (← Reading.bytes a) = (← Reading.bytes b)
  | _, .range a b c, .range d e f => return rangeEqual a b c d e f
  | _, .part a m, .part b n => return a = b ∧ m = n
  | _, .foreign a m, .foreign b n => return a = b ∧ m = n
  | _, .callable a, .callable b => return a.equal b
  | depth, .object a, .object b => do
    let c ← Reading.cell a
    if a = b ∧ c.isSelfEqual then return true
    match depth with
    | 0 => throw (.depthLimit .compare)
    | depth + 1 => c.equalWith (equalWithin depth) (← Reading.cell b)
  | _, v, w => numbersEqual v.number? w.number?

def equal (v w : Value) : Reading Bool := do
  equalWithin (2 * (← Reading.depth) + 1) v w

/--
The imprint of a value that can be a key of a mapping, to a depth of objects. Any other value is a
fault, which names the innermost reason.
-/
def imprintWithin : (depth : Nat) → Value → Reading Imprint
  | _, .nothing => return .nothing
  | _, .key k => return k.imprint
  | _, .kind k => return .ofText k.constant
  | _, .bytes bs => return .ofBytes bs
  | _, .byteArray _ => throw (.unhashable "bytearray")
  | _, .range start stop step => return .ofRange (rangeLength start stop step) start step
  | _, .callable c => return c.imprint
  | _, v@(.part ..) | _, v@(.foreign ..) => return .identity v
  | _, .complex re im =>
    match re.residue?, im.residue? with
    | some m, some n => return .number (Residue.ofParts m n)
    | _, _ => return .identity (.complex re im)
  | _, .decimal d => do
    if d.isSignaling then throw .unhashableNumber
    match d.residue? with
    | some n => return .number n
    | none => return .identity (.decimal d)
  | depth, .object a => do
    match depth with
    | 0 => throw (.depthLimit .call)
    | depth + 1 =>
      match (← Reading.cell a) with
      | .tuple members => return .parts (← members.mapM (imprintWithin depth))
      | .literal (some v) =>
        return .parts [.identity (.callable (.builtin .literal)), ← imprintWithin depth v]
      | .literal none => throw .missingValue
      | .slot attributes =>
        let (k, v) ← Reading.slotParts attributes
        return .parts [← imprintWithin depth k, ← imprintWithin depth v]
      | .plain .. | .counter _ | .routine .. => return .identity (.object a)
      | c => throw (.unhashable c.typeName.full)

def imprint (v : Value) : Reading Imprint := do
  imprintWithin ((← Reading.depth) + 1) v

def asKey (v : Value) : Reading StoredKey := do
  let imprint ← v.imprint
  if h : v.isComparable then return ⟨v, imprint, h⟩ else throw .unhashableNumber

def find? (entries : Entries) (key : Value) : Reading (Option Value) := do
  findEntry? equal (← key.asKey) entries

end Value

namespace Entries

/-- The entries with a new value for a key. A fitting key that is there keeps its form and place. -/
def put (key : StoredKey) (value : Value) : Entries → Reading Entries
  | [] => return [(key, value)]
  | (k, v) :: rest => do
    if (← k.fits Value.equal key) then return (k, value) :: rest
    else return (k, v) :: (← put key value rest)

def insert (key value : Value) (entries : Entries) : Reading Entries := do
  put (← key.asKey) value entries

end Entries
end Stencil
