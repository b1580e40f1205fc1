import Stencil.Template

/-!
Making error objects, and the refusal to make a template by hand.
-/

namespace Stencil

namespace ErrorClass

/-- The classes whose objects carry one value, by the name of the attribute that holds it. -/
def carries? : ErrorClass → Option Text
  | .invalidContext => some "context"
  | .invalidReceiver => some "receiver"
  | .invalidContinuation => some "continuation"
  | _ => none

def initializer (c : ErrorClass) : Text :=
  Text.ofString c.title ++ ".__init__"

end ErrorClass

namespace Fault

def carrying (cls : ErrorClass) (v : Value) (typeName : Text) : Fault :=
  match cls with
  | .invalidReceiver => .invalidReceiver v typeName
  | .invalidContinuation => .invalidContinuation v typeName
  | _ => .invalidContext v typeName

/-- The message of a class without wording of its own: nothing, the one argument, or all of them. -/
def plainMessage (cls : ErrorClass) : List Value → Action Text
  | [] => return []
  | [v] => if cls = .key then v.repr else v.toText
  | vs => do
    let all ← Action.newObject (.tuple vs)
    all.repr

def construct (cls : ErrorClass) (arguments : List Value) : Action Fault := do
  match cls.carries?, arguments with
  | some _, [v] => return carrying cls v (← v.bareTypeName)
  | some name, [] => throw (.missingArgument cls.initializer name)
  | some _, vs => throw (.excessArguments cls.initializer 2 (vs.length + 1))
  | none, vs =>
    if cls = .illegalConstruction then
      if vs.isEmpty then return .illegalConstruction
      else throw (.excessArguments cls.initializer 1 (vs.length + 1))
    else match cls.arity? with
      | some (function, n) =>
        if vs.length = n then return .raised cls (← plainMessage cls vs)
        else throw (.exactArguments function n vs.length)
      | none => return .raised cls (← plainMessage cls vs)

end Fault

/--
A template is compiled or wrapped, never made by hand. The arguments are gone through first, and do
not matter then.
-/
def Template.construct (arguments : Value) : Action Value := do
  arguments.spread "tagtemplate.template.Template"
  throw .illegalConstruction

end Stencil
