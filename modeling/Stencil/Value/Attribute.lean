import Stencil.Value.TypeAttribute

/-!
The attributes of values: reading one, reading one that may be missing, assigning, deleting.

A value has the attributes that it was given, those that its type says, and its operations. Some
values keep what they were given in a mapping, which is an attribute itself.
-/

namespace Stencil

/-- The attributes with a new value under a name, which keeps its place if it is there. -/
def putNamed (name : Text) (v : Value) : List (Text × Value) → List (Text × Value)
  | [] => [(name, v)]
  | (n, w) :: rest => if n = name then (n, v) :: rest else (n, w) :: putNamed name v rest

inductive PartRule
  /-- A part that is lost is nothing. -/
  | anything
  | text
  | tuple
  | mapping
  /-- A part that is lost is an empty mapping. -/
  | fullMapping
  | code
  | fixed

def PartRule.ofFunction : List (Text × PartRule) :=
  [("__doc__", .anything), ("__module__", .anything), ("__name__", .text),
   ("__qualname__", .text), ("__defaults__", .tuple), ("__kwdefaults__", .mapping),
   ("__annotations__", .fullMapping), ("__code__", .code), ("__closure__", .fixed),
   ("__globals__", .fixed), ("__builtins__", .fixed)]

namespace Entries

def withoutText (name : Text) (entries : Entries) : Entries :=
  entries.filter (·.1.key.text? ≠ some name)

end Entries

namespace Value

/-! ## Reading -/

/-- The mapping of attributes that was made for a value which had none at first. -/
def laterDictionary? (v : Value) : Reading (Option Address) := do
  match (← Reading.extra? v "__dict__") with
  | some ⟨_, _, some (.object a)⟩ => return some a
  | _ => return none

/-- Where a value keeps the attributes that it was given, if that is a mapping. -/
def dictionary? (v : Value) : Reading (Option Address) := do
  match v with
  | .key (.strategy s) => return some (Standing.address (.strategyAttributes s))
  | .kind k => return some (Standing.address (.kindAttributes k))
  | .object a =>
    match (← Reading.cell a) with
    | .record attributes | .plain _ attributes _ | .slot attributes => return some attributes
    | _ => v.laterDictionary?
  | v => v.laterDictionary?

def givenAttribute? (v : Value) (name : Text) : Reading (Option Value) := do
  match (← v.dictionary?) with
  | some attributes => return (← Reading.entries attributes).texts.lookup name
  | none => return (← Reading.extra? v name).bind (·.value)

/-- The rule for a part of a function, if it is one: parts are no given attributes. -/
def functionPart? (v : Value) (name : Text) : Option PartRule :=
  match v with
  | .callable (.tag ..) | .callable (.evaluator ..) => PartRule.ofFunction.lookup name
  | _ => none

/-- Whether an attribute is one that a value of its type starts with and may lose. -/
def startsWith (v : Value) (name : Text) : Bool :=
  match v with
  | .callable (.evaluator _ .generated ..) => name = ("__source__" : Text)
  | _ => false

def typeAttribute? (v : Value) (name : Text) : Reading (Option Value) := do
  match (← v.typeAttributes).lookup name with
  | some w => return some w
  | none =>
    if (← v.hasOperation name) then return some (.callable (.operation v name)) else return none

def ownAttribute? (v : Value) (name : Text) : Reading (Option Value) := do
  match (← v.dictionary?), v.functionPart? name with
  | some attributes, none =>
    if name = ("__dict__" : Text) then return some (.object attributes)
    match (← Reading.entries attributes).texts.lookup name with
    | some w => return some w
    | none => if v.startsWith name then return none else v.typeAttribute? name
  | _, _ =>
    match (← Reading.extra? v name) with
    | some ⟨_, _, some w⟩ => return some w
    | some ⟨_, _, none⟩ => if v.startsWith name then return none else v.typeAttribute? name
    | none => v.typeAttribute? name

/-- The fault of reading an attribute that is not there; a host object may have one of its own. -/
def missingAttribute (v : Value) (name : Text) : Reading Fault := do
  let owner ← v.ownerName
  match v with
  | .object a =>
    match (← Reading.cell a) with
    | .plain _ _ failing =>
      match failing.find? (·.name = name) with
      | some f => return .ofRaise f.cls f.message
      | none => return .missingHostAttribute owner name
    | _ => return .missingAttribute owner name
  | .callable (.builtin b) =>
    let isBare := match b with
      | .length => false
      | .constants _ => true
      | _ => name = ("__abstractmethods__" : Text)
    return if isBare then .raised .attribute name else .missingAttribute owner name
  | _ => return .missingAttribute owner name

def getAttribute (v : Value) (name : Text) : Reading Value := do
  if name = ("__class__" : Text) then return .callable (.builtin (← v.class))
  match (← v.ownAttribute? name) with
  | some w => return w
  | none => throw (← v.missingAttribute name)

def getAttribute? (v : Value) (name : Text) : Reading (Option Value) :=
  fun s =>
    match v.getAttribute name s with
    | .ok w => .ok (some w)
    | .error f => if f.isMissingAttribute then .ok none else .error f

def hasAttribute (v : Value) (name : Text) : Reading Bool := do
  return (← v.getAttribute? name).isSome

/-- The attributes that were given to a value that keeps them in no mapping, the oldest first. -/
def givenAttributes (v : Value) : Reading (List (Text × Value)) := do
  let first ← match v with
    | .callable (.evaluator ..) => do
      pure ((← v.typeAttributes).filter fun (name, _) => v.startsWith name)
    | _ => pure []
  let changes := (← Reading.extras).filter fun change =>
    change.owner.same v && (v.functionPart? change.name).isNone
  return changes.foldr
    (fun change given =>
      match change.value with
      | some w => putNamed change.name w given
      | none => given.filter (·.1 ≠ change.name))
    first

/-- The mapping of attributes that is made for a value which keeps them in none. -/
def freshDictionary? (v : Value) : Reading (Option Entries) := do
  match v with
  | .callable (.tag ..) | .callable (.evaluator ..) => return some (.ofTexts (← v.givenAttributes))
  | .callable (.chain _ head delimiter tail) =>
    return some <| .ofTexts
      [("head", .callable head), ("delimiter", .text delimiter), ("tail", .callable tail)]
  | .object a =>
    match (← Reading.cell a) with
    | .mapping form _ =>
      if form.isOpen then return some (.ofTexts (← v.givenAttributes)) else return none
    | _ => return none
  | _ => return none

/-- Reads an attribute, which may have to be made for it. -/
def readAttribute (v : Value) (name : Text) : Action Value := do
  if name = ("__dict__" : Text) && (← v.dictionary?).isNone then
    if let some entries := (← v.freshDictionary?) then
      Action.addExtra ⟨v, name, some (← Action.newObject (.mapping .plain entries))⟩
  v.getAttribute name

/-! ## What cannot be changed -/

/-- Whether an attribute is a property that the constants of one type share. -/
def isConstantProperty (v : Value) (name : Text) : Bool :=
  match v with
  | .key (.strategy _) | .kind _ => name = ("name" : Text) ∨ name = ("value" : Text)
  | _ => false

/-- The family that a value is, if the name is one of its constants. -/
def ownsConstant? (v : Value) (name : Text) : Option ConstantFamily :=
  match v with
  | .callable (.builtin (.constants family)) =>
    if (family.constants.lookup name).isSome then some family else none
  | _ => none

/-- Refuses to change what the constants of a type share, and the constants of a type. -/
def guardConstants (v : Value) (change : FieldChange) (name : Text) : Reading Unit := do
  if v.isConstantProperty name then throw (.constantProperty change name)
  match v.ownsConstant? name with
  | some family => throw (.fixedConstant change family.name name)
  | none => return ()

/-- Whether a value can be given attributes that it does not keep in a mapping. -/
def takesExtras (v : Value) : Reading Bool := do
  match v with
  | .callable (.tag ..) | .callable (.evaluator ..) | .callable (.routine _) => return true
  | .callable (.builtin b) => return b.isOpen
  | .object a =>
    match (← Reading.cell a) with
    | .mapping form _ => return form.isOpen
    | .counter _ => return true
    | _ => return false
  | _ => return false

def takesAttributes (v : Value) : Reading Bool := do
  if (← v.takesExtras) then return true else return (← v.dictionary?).isSome

/-- Whether an attribute can be taken from a value that can be given attributes. -/
def isGiven (v : Value) (name : Text) : Reading Bool := do
  match (← Reading.extra? v name) with
  | some a => return a.value.isSome
  | none => return v.startsWith name

def frozenFault? (v : Value) (change : FieldChange) (name : Text) : Reading (Option Fault) := do
  match v with
  | .callable (.template ..) => return some .immutable
  | .callable (.chain ..) => return some (.frozenField change name)
  | .callable (.builtin b) =>
    return if b.isOpen then none else b.className?.map (.fixedType · name)
  | .object a =>
    match (← Reading.cell a) with
    | .slot _ => return some (.frozenField change name)
    | _ => return none
  | _ => return none

def typeChangeFault : Option Value → Reading Fault
  | none => return .typeKept
  | some w@(.callable (.builtin b)) => do
    if b.className?.isSome then return .typeChange else return .typeRequired (← w.fullTypeName)
  | some w => return .typeRequired (← w.fullTypeName)

def isDictionary (v : Value) : Reading Bool := do
  match v with
  | .object a =>
    match (← Reading.cell a) with
    | .mapping .proxy _ => return false
    | .mapping .. => return true
    | _ => return false
  | _ => return false

def dictionaryFault? (v : Value) : Option Value → Reading (Option Fault)
  | none => do
    if (← v.takesExtras) then return some .dictionaryKept else return none
  | some w => do
    if (← w.isDictionary) then return none
    else return some (.dictionaryRequired (← w.fullTypeName))

def tracksReferences (v : Value) : Reading (Option Text) := do
  match v with
  | .key (.strategy _) | .kind _ => return some "Enum"
  | .callable (.routine _) => return some (← v.fullTypeName)
  | .object a =>
    match (← Reading.cell a) with
    | .plain .. | .counter _ => return some (← v.fullTypeName)
    | _ => return none
  | _ => return none

/-- Refuses to change the type of a value, and what is kept beside its attributes. -/
def guardOwn (v : Value) (name : Text) (w : Option Value) : Reading Unit := do
  if name = ("__class__" : Text) then throw (← typeChangeFault w)
  if name = ("__weakref__" : Text) then
    match (← v.tracksReferences) with
    | some typeName => throw (.unwritableAttribute typeName name)
    | none => return ()
  if name = ("__dict__" : Text) && (← v.takesAttributes) then
    match v with
    | .callable (.builtin _) => throw (.unwritableAttribute "type" name)
    | .object a =>
      if let .record _ := (← Reading.cell a) then throw .readOnlyAttribute
    | _ => pure ()
    match (← v.dictionaryFault? w) with
    | some f => throw f
    | none => return ()

def partFault (v : Value) (name : Text) : Reading Fault := do
  match v with
  | .complex .. | .range .. => return .readOnlyAttribute
  | .key (.bool _) => return .unwritableAttribute "int" name
  | v => return .unwritableAttribute (← v.fullTypeName) name

/-- The fault of changing an attribute that a value has from its type, or that it does not have. -/
def attributeFault (v : Value) (name : Text) : Reading Fault := do
  if (← v.takesAttributes) then return .missingAttribute (← v.ownerName) name
  let isPart := ((← v.typeAttributes).lookup name).isSome
  if isPart ∧ ¬ isOperator name then v.partFault name
  else if isPart || (← v.hasOperation name) then return .fixedAttribute (← v.ownerName) name
  else return .missingAttribute (← v.ownerName) name

/-- Refuses a change of an attribute that is refused whatever the attributes of the value are. -/
def guardChange (v : Value) (change : FieldChange) (name : Text) (w : Option Value) :
    Reading Unit := do
  match (← v.frozenFault? change name) with
  | some f => throw f
  | none =>
    v.guardConstants change name
    v.guardOwn name w

/-! ## Changing -/

/-- Keeps the attributes of a value elsewhere, or copies them to where those of a constant are. -/
def moveDictionary (v : Value) (attributes : Address) : Action Unit := do
  let later := Action.addExtra ⟨v, "__dict__", some (.object attributes)⟩
  match v with
  | .object a =>
    match (← Reading.cell a) with
    | .plain shown _ failing => Action.write a (.plain shown attributes failing)
    | _ => later
  | .key (.strategy _) | .kind _ =>
    match (← v.dictionary?) with
    | some old => Action.writeEntries old (← Reading.entries attributes)
    | none => pure ()
  | _ => later

def functionPart (rule : PartRule) (name : Text) (w : Option Value) : Action Value := do
  let part := w.getD .nothing
  match rule, part with
  | .anything, _ | .tuple, .nothing | .mapping, .nothing => return part
  | .fullMapping, .nothing => Action.newObject (.mapping .plain [])
  | .text, _ =>
    if part.text?.isSome then return part else throw (.partRequired name "string")
  | .tuple, .object a =>
    match (← Reading.cell a) with
    | .tuple _ => return part
    | _ => throw (.partRequired name "tuple")
  | .tuple, _ => throw (.partRequired name "tuple")
  | .mapping, _ | .fullMapping, _ =>
    if (← part.isDictionary) then return part else throw (.partRequired name "dict")
  | .code, .foreign type _ =>
    if type = ("code" : Text) then return part else throw (.partRequired name "code")
  | .code, _ => throw (.partRequired name "code")
  | .fixed, _ => throw .readOnlyAttribute

/-- Changes a part of a function, if the name is one of those. -/
def changePart (v : Value) (name : Text) (w : Option Value) : Action Bool := do
  match v.functionPart? name with
  | some rule =>
    Action.addExtra ⟨v, name, some (← functionPart rule name w)⟩
    return true
  | none => return false

def giveExtra (v : Value) (name : Text) (w : Value) : Action Unit := do
  if (← v.takesExtras) then Action.addExtra ⟨v, name, some w⟩
  else throw (← v.attributeFault name)

def takeExtra (v : Value) (name : Text) : Action Unit := do
  if (← v.takesExtras) && (← v.isGiven name) then Action.addExtra ⟨v, name, none⟩
  else throw (← v.attributeFault name)

def setAttribute (v : Value) (name : Text) (w : Value) : Action Unit := do
  v.guardChange .assign name (some w)
  if (← v.changePart name (some w)) then return
  match (← v.dictionary?) with
  | some attributes =>
    if name = ("__dict__" : Text) then
      if let .object a := w then return (← v.moveDictionary a)
    let entries ← (← Reading.entries attributes).insert (.text name) w
    Action.writeEntries attributes entries
  | none =>
    match v with
    | .object a =>
      match (← Reading.cell a) with
      | .literal _ =>
        if name = ("value" : Text) then Action.write a (.literal (some w))
        else throw (← v.attributeFault name)
      | .mapping (.withDefault _) entries =>
        if name = ("default_factory" : Text) then
          Action.write a (.mapping (.withDefault w) entries)
        else throw (← v.attributeFault name)
      | _ => v.giveExtra name w
    | v => v.giveExtra name w

def deleteAttribute (v : Value) (name : Text) : Action Unit := do
  v.guardChange .delete name none
  if (← v.changePart name none) then return
  match (← v.dictionary?) with
  | some attributes =>
    if name = ("__dict__" : Text) then
      return (← v.moveDictionary (← Action.newAttributes []))
    let entries ← Reading.entries attributes
    if (entries.texts.lookup name).isSome then
      Action.writeEntries attributes (entries.withoutText name)
    else throw (← v.attributeFault name)
  | none =>
    match v with
    | .object a =>
      match (← Reading.cell a) with
      | .literal old =>
        if name ≠ ("value" : Text) then throw (← v.attributeFault name)
        else if old.isSome then Action.write a (.literal none)
        else throw .valueDeleted
      | .mapping (.withDefault _) entries =>
        -- A factory that was taken away is nothing, and can be taken away again.
        if name = ("default_factory" : Text) then
          Action.write a (.mapping (.withDefault .nothing) entries)
        else throw (← v.attributeFault name)
      | _ => v.takeExtra name
    | v => v.takeExtra name

def changeAttribute (v : Value) (name : Text) : Option Value → Action Unit
  | some w => v.setAttribute name w
  | none => v.deleteAttribute name

end Value
end Stencil
