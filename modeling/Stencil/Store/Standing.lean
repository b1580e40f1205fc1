import Stencil.Store
import Stencil.Value.Constant

/-!
The containers that stand in a store from the start: they are attributes of types, or hold the
attributes of named constants. Each has an address of its own, the same one in every store.
-/

namespace Stencil

/-- The types that a type comes from, the nearest first, each with the place it is derived from. -/
def Builtin.ancestors : Builtin → List Builtin
  | .truth => [.type [] "int", .type [] "object"]
  | .constants .strategies => [.text, .type "enum" "Enum", .type [] "object"]
  | .constants .itemKinds => [.type "enum" "Enum", .type [] "object"]
  | _ => [.type [] "object"]

def Builtin.parents : Builtin → List Builtin
  | .constants .strategies => [.text, .type "enum" "Enum"]
  | b => b.ancestors.take 1

inductive Standing
  /-- The attributes of a named constant. -/
  | strategyAttributes (s : Strategy)
  | kindAttributes (k : ItemKind)
  /-- The constants of a family: their names, by name, by meaning, for reading only. -/
  | names (family : ConstantFamily)
  | byName (family : ConstantFamily)
  | byMeaning (family : ConstantFamily)
  | readable (family : ConstantFamily)
  /-- The constants of a family that cannot be keys. -/
  | unhashable (family : ConstantFamily)
  /-- The attributes that values of a type have room for. -/
  | wrapperRoom
  | templateRoom
  /-- The parts of classified items and of chains: in order, by what they are, and as fields. -/
  | slotParts
  | chainParts
  | slotAnnotations
  | chainAnnotations
  | slotFields
  | chainFields
  /-- What the parameters of the functions are, and what the functions hold. -/
  | emittedAnnotations
  | foldAnnotations
  | foldClosure
  | tagAnnotations
  | tagClosure
  | noItems
  | tagDefaults
  /-- What a type says of its attributes, if it says nothing. -/
  | annotations (b : Builtin)
  /-- What a type is derived from, at once or at all. -/
  | parents (b : Builtin)
  | lineage (b : Builtin)
deriving DecidableEq

namespace Standing

def classes : List Builtin :=
  [.text, .truth, .literal, .constants .strategies, .constants .itemKinds]

def families : List ConstantFamily := [.strategies, .itemKinds]

def all : List Standing :=
  Strategy.all.map strategyAttributes ++ ItemKind.all.map kindAttributes ++
    [names, byName, byMeaning, readable, unhashable].flatMap families.map ++
    [wrapperRoom, templateRoom, slotParts, chainParts, slotAnnotations, chainAnnotations,
      slotFields, chainFields, emittedAnnotations, foldAnnotations, foldClosure, tagAnnotations,
      tagClosure, noItems, tagDefaults] ++
    [annotations, parents, lineage].flatMap classes.map

def address (s : Standing) : Address :=
  all.idxOf s

def value (s : Standing) : Value :=
  .object s.address

def texts (ts : List Text) : Cell :=
  .tuple (ts.map Value.text)

def types (bs : List Builtin) : Cell :=
  .tuple (bs.map fun b => .callable (.builtin b))

def annotated (notes : List (Text × Text)) : Cell :=
  .mapping .plain (.ofTexts (notes.map fun (name, note) => (name, .text note)))

def closure (size : Nat) : Cell :=
  .tuple (List.replicate size (.foreign "cell" "<cell>"))

def constantAttributes (family : ConstantFamily) (constant name : Text) (place : Nat) : Cell :=
  .mapping .plain <| .ofTexts
    [("_value_", .text name), ("_name_", .text constant),
     ("__objclass__", .callable (.builtin (.constants family))), ("_sort_order_", .int place)]

def field (name annotation default : Text) : Text × Value :=
  (name, .foreign "Field" <|
    "Field(name='" ++ name ++ "',type='" ++ annotation ++ "',default=" ++ default ++
      ",default_factory=<dataclasses._MISSING_TYPE object>,init=True,repr=True,hash=None," ++
      "compare=True,metadata=mappingproxy(\x7b\x7d),kw_only=False,_field_type=_FIELD)")

def noDefault : Text := "<dataclasses._MISSING_TYPE object>"

def cell : Standing → Cell
  | strategyAttributes s => constantAttributes .strategies s.constant s.name (Strategy.all.idxOf s)
  | kindAttributes k => constantAttributes .itemKinds k.constant k.name (ItemKind.all.idxOf k)
  | names family => .list (family.constants.map fun c => .text c.1)
  | byName family => .mapping .plain (.ofTexts family.constants)
  | byMeaning family => .mapping .plain (.ofTexts family.meanings)
  | readable family => .mapping .proxy (.ofTexts family.constants)
  | unhashable _ => .list []
  | wrapperRoom => texts ["value"]
  | templateRoom => texts ["_evaluator"]
  | slotParts => texts ["kind", "value"]
  | chainParts => texts ["head", "delimiter", "tail"]
  | slotAnnotations => annotated [("kind", "ItemKind"), ("value", "Any")]
  | chainAnnotations =>
    annotated [("head", "Evaluator"), ("delimiter", "str"), ("tail", "Evaluator")]
  | slotFields =>
    .mapping .plain (.ofTexts [field "kind" "ItemKind" noDefault, field "value" "Any" "None"])
  | chainFields =>
    .mapping .plain <| .ofTexts
      [field "head" "Evaluator" noDefault, field "delimiter" "str" noDefault,
       field "tail" "Evaluator" noDefault]
  | emittedAnnotations | annotations _ => .mapping .plain []
  | foldAnnotations => annotated [("context", "Any"), ("return", "str")]
  | foldClosure => closure 1
  | tagAnnotations =>
    annotated [("fragments", "Any"), ("items", "Sequence[Any]"), ("return", "Template")]
  | tagClosure => closure 3
  | noItems => .tuple []
  | tagDefaults => .tuple [noItems.value]
  | parents b => types b.parents
  | lineage b => types (b :: b.ancestors)

end Standing

namespace Store

/-- A store in which only the standing containers are. -/
def initial (strategy : Strategy) (room : Nat) : Store :=
  ⟨(Standing.all.map Standing.cell).toArray, [], #[], 0, strategy, room⟩

end Store
end Stencil
