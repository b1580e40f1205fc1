import Stencil.Template
import Stencil.Unicode.Blank
import Stencil.Unicode.Lowercase

/-!
The setting of the strategy, and the choice of a strategy from it.
-/

namespace Stencil

inductive Setting
  | auto
  | forced (s : Strategy)
deriving DecidableEq

namespace Setting

def name : Setting → Text
  | .auto => "auto"
  | .forced s => s.name

def all : List Setting :=
  [.auto, .forced .generated, .forced .interpreted]

/-- A text without blanks at its ends and in lower case; nothing at all means auto. -/
def normalize (t : Text) : Text :=
  match t.strip.lower with
  | [] => Setting.auto.name
  | t => t

def ofText? (t : Text) : Option Setting :=
  all.find? (·.name = normalize t)

/-- The setting that a value gives; only texts give one, and of those none that has surrogates. -/
def ofValue (v : Value) : Except Fault Setting :=
  match v.text?.bind ofText? with
  | some s => .ok s
  | none =>
    if v.text?.any (·.any CodePoint.isSurrogate) then .error .settingSurrogate
    else .error .settingInput

def variableName : Text := "TAGTEMPLATE_STRATEGY"

/-- The environment of a process in which the variable holds a text, as far as it can. -/
def environment : Option Text → Except Fault Entries
  | none => .ok []
  | some t =>
    match Encoding.unencodable? true 0 t with
    | some u => .error (.unencodable u)
    | none =>
      if CodePoint.ofChar '\x00' ∈ t then .error .nullInVariable
      else .ok (.ofTexts [(variableName, .text t)])

def isSet (environment : Value) : Reading Bool := do
  match (← environment.entries?) with
  | some entries => return (← Value.find? entries (.text variableName)).isSome
  | none =>
    match environment with
    | .nothing | .range .. => return false
    | .bytes _ | .byteArray _ => throw (.byteMembership "str")
    | v =>
      match v.text? with
      | some t => return variableName.occursIn t
      | none =>
        match (← Reading.toExcept v.members) with
        | .ok members => return members.any fun w => w.text? = some variableName
        | .error _ => throw (.noMembership (← v.fullTypeName))

/-- The setting of an environment; auto where the variable is not set. -/
def load (environment : Value) : Reading Setting := do
  if (← isSet environment) then ofValue (← environment.getItem (.text variableName))
  else return .auto

/-- A setting that was made cannot be changed, whatever the new value. -/
def assign (_ : Setting) (_ : Value) : Except Fault Setting :=
  .error .settingFrozen

end Setting

namespace Strategy

/-- Runs the probe only if the setting leaves the choice open. -/
def select {m : Type → Type} [Monad m] (setting : Setting) (probe : m Bool) : m Strategy := do
  match setting with
  | .forced s => return s
  | .auto => return if (← probe) then .generated else .interpreted

/-- The classes of errors by which a host forbids programs made at run time. -/
def denials : List ErrorClass := [.runtime, .permission]

/-- Whether the host runs programs made at run time, given the fault it answers with, if any. -/
def programsAllowed (fault : Option Fault) : Except Fault Bool :=
  match fault with
  | none => .ok true
  | some f => if denials.any f.cls.isA then .ok false else .error f

end Strategy
end Stencil
