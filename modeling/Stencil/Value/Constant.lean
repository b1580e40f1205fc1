import Stencil.Value

/-!
The types of named constants: what they are called, and the constants of each in order.
-/

namespace Stencil

namespace Strategy

def all : List Strategy := [.generated, .interpreted]

theorem mem_all (s : Strategy) : s ∈ all := by
  cases s <;> decide

end Strategy

namespace ItemKind

def all : List ItemKind := [.absent, .literal, .callable, .key]

theorem mem_all (k : ItemKind) : k ∈ all := by
  cases k <;> decide

end ItemKind

namespace ConstantFamily

def name : ConstantFamily → Text
  | .strategies => "Strategy"
  | .itemKinds => "ItemKind"

def home : ConstantFamily → Text
  | .strategies => "tagtemplate.compiler.strategy"
  | .itemKinds => "tagtemplate.items"

def kind : ConstantFamily → Builtin
  | .strategies => .text
  | .itemKinds => .type [] "object"

def constants : ConstantFamily → List (Text × Value)
  | .strategies => Strategy.all.map fun s => (s.constant, .strategy s)
  | .itemKinds => ItemKind.all.map fun k => (k.constant, .kind k)

def members (family : ConstantFamily) : List Value :=
  family.constants.map Prod.snd

/-- The texts that the constants stand for, each with its constant. -/
def meanings : ConstantFamily → List (Text × Value)
  | .strategies => Strategy.all.map fun s => (s.name, .strategy s)
  | .itemKinds => ItemKind.all.map fun k => (k.name, .kind k)

end ConstantFamily
end Stencil
