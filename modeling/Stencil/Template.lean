import Stencil.Fold
import Stencil.Layout

/-!
Templates: compiling fragments and items, calling what is compiled, and extending a template by a
continuation if a condition holds.
-/

namespace Stencil

def defaultDelimiter : Text := " "

namespace Template

def compileWith (strategy : Strategy) (fragments : Value) (items : Option Value) :
    Action Callable := do
  let l ← Layout.prepare fragments items
  return .evaluator (← Action.newIdentity) strategy l.texts l.slots

/-- An evaluator compiled by the strategy of the process. -/
def compileEvaluator (fragments : Value) (items : Option Value) : Action Callable := do
  compileWith (← get).strategy fragments items

def wrap (body : Callable) : Action Callable := do
  return .template (← Action.newIdentity) body

/-- Whether a value has the two attributes of a template string. -/
def isTemplateString (v : Value) : Reading Bool := do
  if (← v.hasAttribute "strings") then v.hasAttribute "interpolations" else return false

/--
The interpolated parts, of which one is taken after the other. No member of a range is one, so its
first one tells.
-/
def interpolatedParts (v : Value) : Reading (List Value) :=
  match v with
  | .range start stop step => return rangeMembers 1 start stop step
  | v => v.members

/-- The values of the interpolated parts. A part may not end the iteration from inside. -/
def interpolatedValues : List Value → Reading (List Value)
  | [] => return []
  | part :: rest => do
    let v ← fun s => match part.getAttribute "value" s with
      | .error (.raised .stopIteration _) => .error .generatorStopped
      | r => r
    return v :: (← interpolatedValues rest)

def hasItems : Option Value → Reading Bool
  | some v => v.isTrue
  | none => return false

def compile (fragments : Value) (items : Option Value) : Action Callable := do
  if (← isTemplateString fragments) then
    if (← hasItems items) then throw .itemsWithTemplateString
    let parts ← fragments.getAttribute "interpolations"
    let values ← interpolatedValues (← interpolatedParts parts)
    let items ← Action.newObject (.tuple values)
    wrap (← compileEvaluator (← fragments.getAttribute "strings") (some items))
  else
    wrap (← compileEvaluator fragments items)

/-- A callable as a template: a template is one already. -/
def ofValue (v : Value) : Action Callable := do
  match v with
  | .callable c@(.template ..) => return c
  | .callable c => wrap c
  | v => throw (.invalidReceiver v (← v.bareTypeName))

/-- The receiver as a template if the continuation is left out. -/
def unextended (receiver : Callable) : Action Callable :=
  ofValue (.callable receiver)

def extend (receiver : Callable) (delimiter : Text) (continuation : Callable) :
    Action Callable := do
  wrap (.chain (← Action.newIdentity) receiver delimiter continuation)

/-- The delimiter and the continuation that two optional arguments mean together. -/
def arguments (delimiter : Option Value) (continuation : Value) : Action (Text × Value) := do
  match delimiter with
  | some (.callable c) => return (defaultDelimiter, .callable c)
  | none | some .nothing => return (defaultDelimiter, continuation)
  | some v => return (← v.toText, continuation)

/--
Extends a receiver by a continuation if a condition counts as true. Without a continuation the
answer is a tag that waits for the fragments and items of one. A callable in the place of the
delimiter is the continuation.
-/
def extendIf (receiver condition : Value) (delimiter : Option Value) (continuation : Value) :
    Action Value := do
  match receiver with
  | .callable receiver =>
    let (delimiter, continuation) ← arguments delimiter continuation
    match continuation with
    | .nothing => return .callable (.tag (← Action.newIdentity) receiver condition delimiter)
    | .callable k =>
      if (← condition.isTrue) then
        return .callable (← extend receiver delimiter k)
      else return .callable (← unextended receiver)
    | v => throw (.invalidContinuation v (← v.bareTypeName))
  | v => throw (.invalidReceiver v (← v.bareTypeName))

/-- What a tag does: compiles the continuation only if the condition counts as true by now. -/
def applyTag (receiver : Callable) (condition : Value) (delimiter : Text) (fragments : Value)
    (items : Option Value) : Action Callable := do
  if (← condition.isTrue) then
    extend receiver delimiter (← compile fragments items)
  else unextended receiver

end Template
end Stencil
