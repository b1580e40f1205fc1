import Stencil.Value.Equality
import Stencil.Number.Shortest
import Stencil.Text.Quoted

/-!
The text that shows a value from inside: texts are quoted, containers list their members, and a
container met again inside itself is cut short. Showing changes nothing.
-/

namespace Stencil

namespace Key

def repr : Key → Reading Text
  | .text t => return Quoted.text t
  | .strategy s =>
    return "<Strategy." ++ s.constant ++ ": " ++ Quoted.text s.name ++ ">"
  | .int n => if Numeral.withinLimit n then return Numeral.signed n else throw .digitLimit
  | .bool b => return if b then "True" else "False"
  | .float x => return x.text

end Key

def ItemKind.repr (k : ItemKind) : Text :=
  "<ItemKind." ++ k.constant ++ ": " ++ Quoted.text k.name ++ ">"

/-- The text of a complex number: a real part of positive zero is left out. -/
def complexText (re im : Binary64) : Text :=
  let imaginary := Binary64.bare.text im ++ "j"
  if re.isZero ∧ ¬ re.isNegative then imaginary
  else
    let sign : Text := if im.isNegative then [] else "+"
    "(" ++ Binary64.bare.text re ++ sign ++ imaginary ++ ")"

def rangeText (start stop step : Int) : Reading Text := do
  let shown ← ([start, stop] ++ if step = 1 then [] else [step]).mapM fun n => Key.repr (.int n)
  return "range(" ++ Text.join ", " shown ++ ")"

def Builtin.repr : Builtin → Text
  | .length => "<built-in function len>"
  | .text => "<class 'str'>"
  | .truth => "<class 'bool'>"
  | .literal => "<class 'tagtemplate.items.Literal'>"
  | .type [] bare => "<class '" ++ bare ++ "'>"
  | .type home bare => "<class '" ++ home ++ "." ++ bare ++ "'>"
  | .constants family => "<enum '" ++ family.name ++ "'>"

/-- The text of a part that the values of a type have. Truth values have those of integers. -/
def partText (type : Builtin) (name : Text) : Text :=
  match type with
  | .literal => "<member '" ++ name ++ "' of 'Literal' objects>"
  | _ => "<attribute '" ++ name ++ "' of 'int' objects>"

def Cell.routineText : Cell → Text
  | .routine r _ => "Fn(" ++ r.label.getD [] ++ ")"
  | _ => "Fn()"

def operationText (name typeName : Text) : Text :=
  if isOperator name then "<method-wrapper '" ++ name ++ "' of " ++ typeName ++ " object>"
  else "<built-in method " ++ name ++ " of " ++ typeName ++ " object>"

/-- The text of a function, which shows the long name that it has now. -/
def Callable.functionText (first : Text) (c : Callable) : Reading Text := do
  match (← Reading.extra? (.callable c) "__qualname__") with
  | some ⟨_, _, some (.key k)⟩ => return "<function " ++ k.text?.getD first ++ ">"
  | _ => return "<function " ++ first ++ ">"

def Callable.repr : Callable → Reading Text
  | .builtin b => return b.repr
  | .routine a => return (← Reading.cell a).routineText
  | .template _ body => return "Template(" ++ (← body.repr) ++ ")"
  | .chain _ head delimiter tail =>
    return "Chain(head=" ++ (← head.repr) ++ ", delimiter=" ++ Quoted.text delimiter ++
      ", tail=" ++ (← tail.repr) ++ ")"
  | c@(.tag ..) => c.functionText "Template.if_.<locals>.tag"
  | c@(.evaluator _ .generated ..) => c.functionText "render_template"
  | c@(.evaluator _ .interpreted ..) => c.functionText "compile_interpreted.<locals>.evaluate"
  | .operation (.callable (.template id body)) name => do
    let owner ← repr (.template id body)
    return "<bound method Template." ++ name ++ " of " ++ owner ++ ">"
  | .operation owner name => return operationText name (← owner.fullTypeName)

namespace Cell

/-- What stands for a container inside itself. Objects without a mark are shown however deep. -/
def cycleMark? : Cell → Option Text
  | .list [] | .tuple [] | .mapping .ordered [] => none
  | .list _ | .deque _ => some "[...]"
  | .tuple _ => some "(...)"
  | .set _ => some "set(...)"
  | .mapping .ordered _ => some "..."
  | .mapping .proxy _ => some "mappingproxy(\x7b...\x7d)"
  | .mapping (.hosted ..) _ => none
  | .mapping .plain _ | .mapping (.withDefault _) _ => some "\x7b...\x7d"
  | .record _ => some "namespace(...)"
  | .slot _ => some "..."
  | _ => none

def pairs (member : Value → Reading Text) (entries : Entries) : Reading Text := do
  let shown ← entries.mapM fun (k, v) => return (← member k.key) ++ ": " ++ (← member v)
  return "\x7b" ++ Text.join ", " shown ++ "\x7d"

/-- The text of a key that an ordered mapping has lost. A tuple of one stands for its member. -/
def lostKeyText (outermost : Value → Reading Text) (k : Value) : Reading Text := do
  let .object a := k | outermost k
  match (← Reading.cell a) with
  | .tuple [v] => outermost v
  | _ => outermost k

def foundPairs (outermost : Value → Reading Text) (entries : Entries) :
    Reading (List (Value × Value)) :=
  entries.mapM fun (k, _) => do
    match (← Value.find? entries k.key) with
    | some v => return (k.key, v)
    | none => throw (.missingKey (← lostKeyText outermost k.key))

/--
The text of an object whose members are shown by the given functions, the second of which shows a
value on its own.
-/
def reprWith (member outermost : Value → Reading Text) : Cell → Reading Text
  | .list members => return "[" ++ Text.join ", " (← members.mapM member) ++ "]"
  | .tuple [v] => return "(" ++ (← member v) ++ ",)"
  | .tuple members => return "(" ++ Text.join ", " (← members.mapM member) ++ ")"
  | .deque members => return "deque([" ++ Text.join ", " (← members.mapM member) ++ "])"
  | .set [] => return "set()"
  | .set members =>
    return "\x7b" ++ Text.join ", " (← members.mapM (member ·.key)) ++ "\x7d"
  | .bytes bs => return Quoted.byteArray bs
  | .mapping .plain entries | .mapping (.withDefault _) entries => pairs member entries
  | .mapping .proxy entries => return "mappingproxy(" ++ (← pairs member entries) ++ ")"
  | .mapping (.hosted className _) _ => return "<__main__." ++ className ++ " object>"
  | .mapping .ordered [] => return "OrderedDict()"
  | .mapping .ordered entries => do
    let shown ← (← foundPairs outermost entries).mapM fun (k, v) =>
      return "(" ++ (← member k) ++ ", " ++ (← member v) ++ ")"
    return "OrderedDict([" ++ Text.join ", " shown ++ "])"
  | .record attributes => do
    let visible := (← Reading.entries attributes).texts.filter fun (name, _) => name ≠ []
    let shown ← visible.mapM fun (name, v) => return name ++ "=" ++ (← member v)
    return "namespace(" ++ Text.join ", " shown ++ ")"
  | .plain .. => return "<Obj>"
  | .counter _ => return "<__main__.StrCounter object>"
  | .literal (some v) => return "literal(" ++ (← member v) ++ ")"
  | .literal none => throw .missingValue
  | .slot attributes => do
    let (kind, v) ← Reading.slotParts attributes
    return "Slot(kind=" ++ (← member kind) ++ ", value=" ++ (← member v) ++ ")"
  | c@(.routine ..) => return c.routineText

/--
What goes before the members of an object: a mapping with a factory tells of it. A factory is cut
short inside itself, and what is shown of it counts as inside of it.
-/
def frameWith (shown : List Address → Value → Reading Text) (outer : List Address)
    (members : Text) : Cell → Reading Text
  | .mapping (.withDefault factory) _ => do
    let told ← match factory with
      | .object b => do
        match (← Reading.cell b) with
        | .slot _ | .mapping .proxy _ => shown outer factory
        | _ => if b ∈ outer then pure "..." else shown (b :: outer) factory
      | factory => shown outer factory
    return "defaultdict(" ++ told ++ ", " ++ members ++ ")"
  | _ => return members

end Cell

namespace Value

/-- Shows a value inside the objects of the given addresses, to a depth of objects. -/
def reprWithin : (depth : Nat) → (outer : List Address) → Value → Reading Text
  | _, _, .nothing => return "None"
  | _, _, .key k => k.repr
  | _, _, .complex re im => return complexText re im
  | _, _, .decimal d => return "Decimal('" ++ d.text ++ "')"
  | _, _, .kind k => return k.repr
  | _, _, .bytes bs => return Quoted.bytes bs
  | _, _, .byteArray a => return "bytearray(" ++ Quoted.byteArray (← Reading.bytes a) ++ ")"
  | _, _, .range start stop step => rangeText start stop step
  | _, _, .part type name => return partText type name
  | _, _, .foreign _ shown => return shown
  | _, _, .callable c => c.repr
  | 0, _, .object _ => throw (.depthLimit .show)
  | depth + 1, outer, .object a => do
    let c ← Reading.cell a
    let outermost := reprWithin depth []
    let members ← match c.cycleMark? with
      | some mark =>
        if a ∈ outer then pure mark else c.reprWith (reprWithin depth (a :: outer)) outermost
      | none => c.reprWith (reprWithin depth outer) outermost
    c.frameWith (reprWithin depth) outer members

/--
The text that shows a value. A path through the store meets each object at most three times before
it is cut short: among the members of others, as a factory, and again inside itself. Only wrapped
values may form a ring of their own.
-/
def repr (v : Value) : Reading Text := do
  reprWithin (3 * (← Reading.depth) + 1) [] v

end Value
end Stencil
