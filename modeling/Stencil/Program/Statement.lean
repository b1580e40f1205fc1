import Stencil.Program.Source

/-!
A program as a list of statements: the lines that each one is written on, the names that it reads,
and the name that it binds.
-/

namespace Stencil

inductive Statement
  | requireStructured
  | bindGetter
  | assign (a : Assignment)
  | answer (body : List Piece)
deriving DecidableEq

def Expression.names : Expression → List Text
  | .get (.inline _) => ["get"]
  | .get (.item _) => ["get", "items"]
  | .item _ => ["items"]
  | .callItem _ => ["items", "context"]

def Expression.positions : Expression → List Nat
  | .get (.inline _) => []
  | .get (.item index) | .item index | .callItem index => [index]

def Piece.target? : Piece → Option Nat
  | .fixed _ => none
  | .field target => some target

namespace Statement

def lines : Statement → List Text
  | .requireStructured =>
    ["    if not is_structured(context):", "        raise InvalidContextError(context)"]
  | .bindGetter => ["    get = getter(context)"]
  | .assign a => [a.line]
  | .answer body => ["    return f'" ++ Program.bodySource body ++ "'"]

def reads : Statement → List Text
  | .requireStructured => ["is_structured", "context", "InvalidContextError"]
  | .bindGetter => ["getter", "context"]
  | .assign a => "text" :: a.expression.names
  | .answer body => (body.filterMap Piece.target?).map localName

def binds : Statement → List Text
  | .bindGetter => ["get"]
  | .assign a => [localName a.target]
  | .requireStructured | .answer _ => []

end Statement

namespace Program

/-- The names that a program finds around it. -/
def globals : List Text :=
  ["items", "is_structured", "InvalidContextError", "getter", "text"]

def parameter : Text := "context"

def opening (p : Program) : List Statement :=
  .requireStructured :: if p.bindsGetter then [.bindGetter] else []

def statements (p : Program) : List Statement :=
  p.opening ++ p.assignments.map .assign ++ [.answer p.body]

def lines (p : Program) : List Text :=
  "def render_template(context):" :: p.statements.flatMap Statement.lines

/--
Whether statements read only what is bound by then. A name that the program binds anywhere is its
own everywhere, and is never found around it.
-/
def Scoped (own : List Text) : (bound : List Text) → List Statement → Prop
  | _, [] => True
  | bound, statement :: rest =>
    (∀ name ∈ statement.reads, name ∈ bound ∨ name ∉ own ∧ name ∈ globals) ∧
      Scoped own (bound ++ statement.binds) rest

/-- A program on its own: only its parameter is bound at first. -/
def Closed (p : Program) : Prop :=
  Scoped (parameter :: p.statements.flatMap Statement.binds) [parameter] p.statements

end Program
end Stencil
