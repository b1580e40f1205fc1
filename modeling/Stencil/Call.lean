import Stencil.Program.Run
import Stencil.Template

/-!
Calling a callable on a context. A callable is a tree, and calling it descends that tree; only a
host routine that appends to a value whose attribute is called for that leaves it.
-/

namespace Stencil

/-- Appends to a container, or calls the attribute that another value has for that. -/
def Value.appendWith (nested : NestedCall) (v w : Value) : Action Value := do
  if (← v.append w) then return .nothing
  nested (← v.getAttribute "append") w

def HostCode.run (nested : NestedCall) : HostCode → Action Value
  | .done outcome => fun s => (outcome, s)
  | .log label next => do
    Action.log label
    next.run nested
  | .read a next => do (next (← Reading.entries a)).run nested
  | .write a entries next => do
    Action.writeEntries a entries
    next.run nested
  | .change v name w next => do (next (← (v.changeAttribute name w).toExcept)).run nested
  | .call v argument next => do (next (← (nested v argument).toExcept)).run nested

/-- Counts and logs the call of a host routine; the number of its calls so far. -/
def recordCall (a : Address) (r : Routine) (calls : Nat) : Action Nat := do
  Action.write a (.routine r (calls + 1))
  match r.label with
  | some label => Action.log label
  | none => pure ()
  return calls + 1

/-- The function that messages about arguments name, and the parameter it takes. -/
def Callable.signature : Callable → Text × Text
  | .builtin .literal => ("Literal.__init__", "value")
  | .builtin b => (b.className?.getD "len", "object")
  | .routine _ => ("Fn.__call__", "context")
  | .template .. => ("Template.__call__", "context")
  | .chain .. => ("Chain.__call__", "context")
  | .evaluator _ .generated .. => ("render_template", "context")
  | .evaluator _ .interpreted .. => ("compile_interpreted.<locals>.evaluate", "context")
  | .tag .. => ("Template.if_.<locals>.tag", "fragments")
  | .operation _ name => (name, "condition")

def Callable.missingArgument (c : Callable) : Fault :=
  .missingArgument c.signature.1 c.signature.2

/-- The values that types make of nothing: what is zero or empty. -/
def emptyValues : List (Text × Action Value) :=
  [("int", return .int 0), ("float", return .float (.zero false)),
   ("complex", return .complex (.zero false) (.zero false)), ("bytes", return .bytes []),
   ("Decimal", return .decimal (.finite false 0 0)), ("NoneType", return .nothing),
   ("bytearray", do return .byteArray (← Action.alloc (.bytes []))),
   ("tuple", Action.newObject (.tuple [])), ("list", Action.newObject (.list [])),
   ("deque", Action.newObject (.deque [])), ("set", Action.newObject (.set [])),
   ("dict", Action.newObject (.mapping .plain [])),
   ("OrderedDict", Action.newObject (.mapping .ordered [])),
   ("defaultdict", Action.newObject (.mapping (.withDefault .nothing) []))]

def Value.callEmpty (nested : NestedCall) (v : Value) : Action Value := do
  match v with
  | .callable (.builtin .text) => return .text []
  | .callable (.builtin .truth) => return .bool false
  | .callable (.builtin .length) => throw (.lengthArguments 0)
  | .callable c@(.builtin (.type _ bare)) =>
    (emptyValues.lookup bare).getD (throw c.missingArgument)
  | .callable c@(.routine a) =>
    match (← Reading.cell a) with
    | .routine ⟨label, .code body⟩ calls => do
      discard (recordCall a ⟨label, .code body⟩ calls)
      (body none).run nested
    | _ => throw c.missingArgument
  | .callable c => throw c.missingArgument
  | v => throw (.notCallable (← v.fullTypeName))

/-- The value of a container for a key. A mapping with a factory makes one that it lacks. -/
def Value.subscript (nested : NestedCall) (v key : Value) : Action Value := do
  match (← v.factory?) with
  | none => v.getItem key
  | some (factory, entries) =>
    match (← Value.find? entries key) with
    | some w => return w
    | none =>
      let w ← factory.callEmpty nested
      v.setItem key w
      return w

def Behaviour.apply (nested : NestedCall) (calls : Nat) (context : Value) :
    Behaviour → Action Value
  | .const v => return v
  | .index key => context.subscript nested key
  | .count => return .int calls
  | .context => return context
  | .typeName => return .text (← context.bareTypeName)
  | .setItem key v => do
    context.setItem key v
    return .nothing
  | .append v => do
    discard (context.appendWith nested v)
    return .nothing
  | .raise cls message => throw (.ofRaise cls message)
  | .code body => (body (some context)).run nested

/-- Counts and logs the call of a host routine, then does what the routine does. -/
def callRoutine (nested : NestedCall) (a : Address) (context : Value) : Action Value := do
  match (← Reading.cell a) with
  | .routine r calls =>
    let calls ← recordCall a r calls
    r.behaviour.apply nested calls context
  | c => throw (.notCallable c.typeName.full)

/-- A type called on a value. The type of types tells the value's own; a template is not made so. -/
def applyType (bare : Text) (v : Value) : Action Value := do
  if bare = ("type" : Text) then return .callable (.builtin (← v.class))
  else if bare = ("Template" : Text) then throw .illegalConstruction
  else throw (.noArguments bare)

def Builtin.apply (context : Value) : Builtin → Action Value
  | .length => return .int (← context.length)
  | .text => return .text (← context.toText)
  | .truth => return .bool (← context.isTrue)
  | .literal => Action.newObject (.literal (some context))
  | .constants family => family.meant context
  | .type _ bare => applyType bare context

/-- An operation of a value, called on one argument. Most operations take none. -/
def applyOperation (nested : NestedCall) (owner : Value) (name : Text) (argument : Value) :
    Action Value := do
  if name = ("if_" : Text) then Template.extendIf owner argument none .nothing
  else if name = ("__getitem__" : Text) then owner.subscript nested argument
  else if name = ("append" : Text) then
    discard (owner.append argument)
    return .nothing
  else if name = ("get" : Text) then owner.typeLookup argument
  else if isOperator name then throw .operatorArguments
  else throw (.noArguments ((← owner.bareTypeName) ++ CodePoint.ofChar '.' :: name))

mutual

def Callable.callWith (nested : NestedCall) : Callable → Value → Action Value
  | .builtin b, context => b.apply context
  | .routine a, context => callRoutine nested a context
  | .template _ body, context => body.callWith nested context
  | .chain _ head delimiter tail, context => do
    let first ← (← head.callWith nested context).toText
    let second ← (← tail.callWith nested context).toText
    return .text (first ++ delimiter ++ second)
  | .tag _ receiver condition delimiter, fragments =>
    return .callable (← Template.applyTag receiver condition delimiter fragments none)
  | .evaluator _ strategy fragments slots, context => do
    -- Bound once, whatever becomes of the attributes of the context while the items are evaluated.
    let host := Host.store nested (← context.ownGet?)
    match strategy with
    | .generated =>
      return .text (← (Program.ofSlots fragments slots).run host (bindAll nested slots) context)
    | .interpreted => return .text (← Fold.run host fragments (bindAll nested slots) context)
  | .operation owner name, context => applyOperation nested owner name context

def Slot.bind (nested : NestedCall) : Slot → Bound Action
  | .callable c => ⟨.callable c, c.callWith nested⟩
  | .absent => ⟨.absent, fun _ => throw (.notCallable "NoneType")⟩
  | .literal v => ⟨.literal v, fun _ => throw (.notCallable "Literal")⟩
  | .key k => ⟨.key k, fun _ => throw (.notCallable k.typeName.full)⟩

def bindAll (nested : NestedCall) : List Slot → List (Bound Action)
  | [] => []
  | slot :: slots => slot.bind nested :: bindAll nested slots

end

/-- Calls of attributes inside calls of attributes, to a depth. -/
def callWithin : (depth : Nat) → NestedCall
  | 0, _, _ => throw (.depthLimit .call)
  | depth + 1, .callable c, context => c.callWith (callWithin depth) context
  | _, v, _ => do throw (.notCallable (← v.fullTypeName))

/--
The depth that calls of attributes may have. The host nests a thousand calls, and takes three of
them for one that goes through an attribute.
-/
def callDepth : Nat := 300

def Callable.call (c : Callable) (context : Value) : Action Value :=
  c.callWith (callWithin callDepth) context

def Value.call (v context : Value) : Action Value := do
  match v with
  | .callable c => c.call context
  | v => throw (.notCallable (← v.fullTypeName))

/-- The value of a key in a context, or nothing, unless the context has its own way to answer. -/
def Value.lookup (context key : Value) : Action Value := do
  context.ask (callWithin callDepth) (← context.ownGet?) key

def Value.appendOrCall (v w : Value) : Action Value :=
  v.appendWith Value.call w

def Value.clearOrCall (v : Value) : Action Value := do
  if (← v.clear) then return .nothing
  (← v.getAttribute "clear").callEmpty (callWithin callDepth)

/-- The text that bytes are by the encoding of a name. No bytes are no text by any name. -/
def decodeText (bs : List UInt8) (name : Text) : Except Fault Text :=
  if bs = [] then return []
  else match Encoding.ofName? name with
    | some encoding =>
      let settled := encoding.settle bs
      match settled.decode with
      | .ok t => return t
      | .error u => throw (.undecodable settled.encoding u)
    | none =>
      if Encoding.otherConversions.contains (Encoding.normalize name) then
        throw (.otherConversion name)
      else throw (.unknownEncoding name)

def Value.decoded (v : Value) (name : Text) : Reading Text := do
  if let some u := Encoding.unencodable? false 0 name then throw (.unencodable u)
  if CodePoint.ofChar '\x00' ∈ name then throw .nullInName
  match v with
  | .bytes bs => decodeText bs name
  | .byteArray a => decodeText (← Reading.bytes a) name
  | v =>
    if v.text?.isSome then throw .decodingText
    else throw (.decodingType (← v.fullTypeName))

def Value.encodingTypeName (v : Value) : Reading Text := do
  match v with
  | .nothing => return "None"
  | v => v.fullTypeName

def Callable.callTwo (c : Callable) (first second : Value) : Action Value := do
  match c with
  | .builtin .text =>
    match second.text? with
    | some name => return .text (← first.decoded name)
    | none => throw (.encodingType (← second.encodingTypeName))
  | .builtin .length => throw (.lengthArguments 2)
  | .builtin .truth => throw .truthArguments
  | .evaluator .. => throw (.excessArguments c.signature.1 1 2)
  | .operation owner name =>
    if name = ("if_" : Text) then Template.extendIf owner first (some second) .nothing
    else applyOperation (callWithin callDepth) owner name first
  | c => throw (.excessArguments c.signature.1 2 3)

/-- Calls a value on fragments and, if they are passed, items. Only a tag takes the latter. -/
def Value.callTag (v fragments : Value) (items : Option Value) : Action Value := do
  match v, items with
  | .callable (.tag _ receiver condition delimiter), items =>
    return .callable (← Template.applyTag receiver condition delimiter fragments items)
  | v, none => v.call fragments
  | .callable c, some second => c.callTwo fragments second
  | v, some _ => throw (.notCallable (← v.fullTypeName))

end Stencil
