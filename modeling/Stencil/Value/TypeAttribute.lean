import Stencil.Program.Source
import Stencil.Store.Standing
import Stencil.Value.Description
import Stencil.Value.Equality
import Stencil.Value.Operation

/-!
The attributes that a value has by its type, but for its operations: its parts, what its type is
called and where it is at home, and what the type says about itself.
-/

namespace Stencil

def labelled (name : Text) (v : Value) : Text × Value :=
  (name, v)

def homeAttribute (home : Text) : List (Text × Value) :=
  [labelled "__module__" (.text home)]

def unhashableAttribute : List (Text × Value) :=
  [labelled "__hash__" .nothing]

def unreferredAttribute : List (Text × Value) :=
  [labelled "__weakref__" .nothing]

def integerAttributes (n : Int) : List (Text × Value) :=
  [labelled "real" (.int n), labelled "imag" (.int 0), labelled "numerator" (.int n),
   labelled "denominator" (.int 1)]

/-- The attributes that a family of constants shares with each of them. -/
def ConstantFamily.attributes (family : ConstantFamily) : List (Text × Value) :=
  family.constants ++
    [labelled "_member_names_" (Standing.value (.names family)),
     labelled "_member_map_" (Standing.value (.byName family)),
     labelled "_value2member_map_" (Standing.value (.byMeaning family)),
     labelled "_unhashable_values_" (Standing.value (.unhashable family)),
     labelled "_member_type_" (.callable (.builtin family.kind)),
     labelled "_use_args_" (.bool (family.kind = .text))] ++
    homeAttribute family.home

def constantAttributes (family : ConstantFamily) (constant name : Text) : List (Text × Value) :=
  [labelled "value" (.text name), labelled "name" (.text constant)] ++ family.attributes ++
    unreferredAttribute

def Key.attributes : Key → List (Text × Value)
  | .text _ => []
  | .strategy s => constantAttributes .strategies s.constant s.name
  | .int n => integerAttributes n
  | .bool b => integerAttributes (if b then 1 else 0)
  | .float x => [labelled "real" (.float x), labelled "imag" (.float (.zero false))]

def nameAttributes (name fullName : Text) (home : Value) : List (Text × Value) :=
  [labelled "__name__" (.text name), labelled "__qualname__" (.text fullName),
   labelled "__module__" home]

def ItemKind.attributes (k : ItemKind) : List (Text × Value) :=
  labelled "_value_repr_" .nothing :: constantAttributes .itemKinds k.constant k.name

def Builtin.partNames : Builtin → List Text
  | .truth => ["real", "imag", "numerator", "denominator"]
  | .literal => ["value"]
  | _ => []

def Builtin.parts (b : Builtin) : List (Text × Value) :=
  b.partNames.map fun name => (name, .part b name)

/-- The room that values of a type take, the room of each member, and the traits of the type. -/
def Builtin.layout? : Builtin → Option (Nat × Nat × Nat)
  | .text => some (80, 0, 273159424)
  | .truth => some (32, 4, 21500160)
  | .literal => some (24, 0, 546304)
  | _ => none

def Builtin.layoutAttributes (b : Builtin) : List (Text × Value) :=
  match b.layout? with
  | none => []
  | some (room, memberRoom, traits) =>
    [labelled "__basicsize__" (.int room), labelled "__itemsize__" (.int memberRoom),
     labelled "__flags__" (.int traits), labelled "__dictoffset__" (.int 0),
     labelled "__weakrefoffset__" (.int 0)]

/-- What a type that descends from others tells of them, and of what it holds. -/
def Builtin.descent (b : Builtin) : List (Text × Value) :=
  labelled "__dict__" (.foreign "mappingproxy" "mappingproxy(...)") ::
    if b ∈ Standing.classes then
      [labelled "__bases__" (Standing.value (.parents b)),
       labelled "__mro__" (Standing.value (.lineage b)),
       labelled "__text_signature__" .nothing] ++
      b.layoutAttributes ++
      (if b.isOpen then [labelled "__annotations__" (Standing.value (.annotations b))] else [])
    else []

def Builtin.attributes : Builtin → List (Text × Value)
  | .length =>
    nameAttributes "len" "len" (.text "builtins") ++
      [labelled "__self__" (.foreign "module" "<module 'builtins' (built-in)>"),
       labelled "__text_signature__" (.text "($module, obj, /)")]
  | .text => nameAttributes "str" "str" (.text "builtins") ++ Builtin.text.descent
  | .truth => nameAttributes "bool" "bool" (.text "builtins") ++ Builtin.truth.descent
  | .literal =>
    nameAttributes "Literal" "Literal" (.text "tagtemplate.items") ++ Builtin.literal.descent ++
      [labelled "__slots__" (Standing.value .wrapperRoom)]
  | .type home bare =>
    let home : Text := if home = [] then "builtins" else home
    nameAttributes bare bare (.text home) ++ (Builtin.type home bare).descent
  | .constants family =>
    family.attributes ++ nameAttributes family.name family.name (.text family.home) ++
      (Builtin.constants family).descent ++
      [labelled "__members__" (Standing.value (.readable family))]

def frozenAttributes (parts annotations fields : Standing) : List (Text × Value) :=
  [labelled "__match_args__" parts.value, labelled "__annotations__" annotations.value,
   labelled "__dataclass_fields__" fields.value,
   labelled "__dataclass_params__" (.foreign "_DataclassParams" <|
      "_DataclassParams(init=True,repr=True,eq=True,order=False,unsafe_hash=False,frozen=True)")] ++
    unreferredAttribute

/-- The attributes of a function that only takes arguments by position. -/
def functionAttributes : List (Text × Value) :=
  [labelled "__kwdefaults__" .nothing, labelled "__code__" (.foreign "code" "<code object>")]

def Callable.attributes : Callable → List (Text × Value)
  | .builtin b => b.parts ++ b.attributes
  | .template _ body =>
    [labelled "evaluator" (.callable body), labelled "_evaluator" (.callable body),
     labelled "__slots__" (Standing.value .templateRoom)] ++ homeAttribute "tagtemplate.template"
  | .chain _ head delimiter tail =>
    [labelled "head" (.callable head), labelled "delimiter" (.text delimiter),
     labelled "tail" (.callable tail)] ++
      frozenAttributes .chainParts .chainAnnotations .chainFields ++
      homeAttribute "tagtemplate.template"
  | .tag .. =>
    nameAttributes "tag" "Template.if_.<locals>.tag" (.text "tagtemplate.template") ++
      [labelled "__defaults__" (Standing.value .tagDefaults),
       labelled "__closure__" (Standing.value .tagClosure),
       labelled "__annotations__" (Standing.value .tagAnnotations)] ++
      functionAttributes
  | .evaluator _ .generated fragments slots =>
    [labelled "__source__" (.text (Program.ofSlots fragments slots).source),
     labelled "__defaults__" .nothing, labelled "__closure__" .nothing,
     labelled "__annotations__" (Standing.value .emittedAnnotations)] ++
      nameAttributes "render_template" "render_template" .nothing ++ functionAttributes
  | .evaluator _ .interpreted .. =>
    [labelled "__defaults__" .nothing, labelled "__closure__" (Standing.value .foldClosure),
     labelled "__annotations__" (Standing.value .foldAnnotations)] ++
      nameAttributes "evaluate" "compile_interpreted.<locals>.evaluate"
        (.text "tagtemplate.compiler.interpreted") ++ functionAttributes
  | .operation owner name => [labelled "__name__" (.text name), labelled "__self__" owner]
  | .routine _ => unreferredAttribute ++ homeAttribute "__main__"

def Cell.attributes : Cell → List (Text × Value)
  | .record _ => unhashableAttribute
  | .plain .. | .counter _ | .routine .. => unreferredAttribute ++ homeAttribute "__main__"
  | .literal v =>
    v.toList.map (labelled "value") ++ [labelled "__slots__" (Standing.value .wrapperRoom)] ++
      homeAttribute "tagtemplate.items"
  | .slot _ =>
    -- A classified item that lost its value has the one of its type.
    labelled "value" .nothing :: frozenAttributes .slotParts .slotAnnotations .slotFields ++
      homeAttribute "tagtemplate.items"
  | .deque _ => labelled "maxlen" .nothing :: unhashableAttribute
  | .mapping (.withDefault factory) _ => labelled "default_factory" factory :: unhashableAttribute
  | .mapping (.hosted _ get) _ =>
    labelled "get" get :: unhashableAttribute ++ unreferredAttribute ++ homeAttribute "__main__"
  | .list _ | .set _ | .bytes _ | .mapping .. => unhashableAttribute
  | .tuple _ => []

namespace Value

/-- The attributes of a value by its type, but for its operations. -/
def typeAttributes (v : Value) : Reading (List (Text × Value)) := do
  let own ← do
    match v with
    | .nothing | .bytes _ | .foreign .. => pure []
    | .key k => pure k.attributes
    | .complex re im => pure [labelled "real" (.float re), labelled "imag" (.float im)]
    | .decimal d =>
      pure [labelled "real" (.decimal d), labelled "imag" (.decimal (.finite false 0 0)),
        labelled "__module__" (.text "decimal")]
    | .kind k => pure k.attributes
    | .byteArray _ => pure unhashableAttribute
    | .range start stop step =>
      pure [labelled "start" (.int start), labelled "stop" (.int stop), labelled "step" (.int step)]
    | .object a => pure (← Reading.cell a).attributes
    | .part _ name => pure [labelled "__name__" (.text name)]
    | .callable c => pure c.attributes
  return own ++ (← v.description?).toList.map (labelled "__doc__")

end Value
end Stencil
