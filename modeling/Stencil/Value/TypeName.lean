import Stencil.Store
import Stencil.Value.Constant

/-!
The names of the types of values: the bare name, and the one that also names the home of the type.
-/

namespace Stencil

/-- A type by its own name and the name of its home, empty for the types that need none. -/
structure TypeName where
  home : Text
  bare : Text

namespace TypeName

def homeless (bare : Text) : TypeName := ⟨[], bare⟩

def full (t : TypeName) : Text :=
  if t.home = [] then t.bare else t.home ++ CodePoint.ofChar '.' :: t.bare

end TypeName

def Key.typeName : Key → TypeName
  | .text _ => .homeless "str"
  | .strategy _ => .homeless "Strategy"
  | .int _ => .homeless "int"
  | .bool _ => .homeless "bool"
  | .float _ => .homeless "float"

def Builtin.typeName : Builtin → TypeName
  | .length => .homeless "builtin_function_or_method"
  | .constants _ => .homeless "EnumType"
  | _ => .homeless "type"

def isOperator (name : Text) : Bool :=
  ("__" : Text).isPrefixOf name

def Callable.typeName : Callable → TypeName
  | .operation (.callable (.template ..)) _ => .homeless "method"
  | .operation _ name =>
    .homeless (if isOperator name then "method-wrapper" else "builtin_function_or_method")
  | .builtin b => b.typeName
  | .routine _ => .homeless "Fn"
  | .template .. => .homeless "Template"
  | .chain .. => .homeless "Chain"
  | .tag .. | .evaluator .. => .homeless "function"

def MappingForm.typeName : MappingForm → TypeName
  | .plain => .homeless "dict"
  | .ordered => ⟨"collections", "OrderedDict"⟩
  | .withDefault _ => ⟨"collections", "defaultdict"⟩
  | .proxy => .homeless "mappingproxy"
  | .hosted className _ => .homeless className

def Cell.typeName : Cell → TypeName
  | .list _ => .homeless "list"
  | .tuple _ => .homeless "tuple"
  | .deque _ => ⟨"collections", "deque"⟩
  | .set _ => .homeless "set"
  | .bytes _ => .homeless "bytearray"
  | .mapping form _ => form.typeName
  | .record _ => ⟨"types", "SimpleNamespace"⟩
  | .plain .. => .homeless "Obj"
  | .counter _ => .homeless "StrCounter"
  | .literal _ => .homeless "Literal"
  | .slot _ => .homeless "Slot"
  | .routine .. => .homeless "Fn"

def Value.typeName : Value → Reading TypeName
  | .nothing => return .homeless "NoneType"
  | .key k => return k.typeName
  | .complex .. => return .homeless "complex"
  | .decimal _ => return ⟨"decimal", "Decimal"⟩
  | .kind _ => return .homeless "ItemKind"
  | .bytes _ => return .homeless "bytes"
  | .byteArray _ => return .homeless "bytearray"
  | .range .. => return .homeless "range"
  | .part .literal _ => return .homeless "member_descriptor"
  | .part .. => return .homeless "getset_descriptor"
  | .foreign type _ => return .homeless type
  | .object a => return (← Reading.cell a).typeName
  | .callable c => return c.typeName

/-- The name that messages of the template library give. -/
def Value.bareTypeName (v : Value) : Reading Text :=
  return (← v.typeName).bare

/-- The name that messages about missing operations give. -/
def Value.fullTypeName (v : Value) : Reading Text :=
  return (← v.typeName).full

def Builtin.className? : Builtin → Option Text
  | .length => none
  | .text => some "str"
  | .truth => some "bool"
  | .literal => some "Literal"
  | .type _ bare => some bare
  | .constants family => some family.name

/-- Whether a type takes attributes, as those of the library and of the host do. -/
def Builtin.isOpen : Builtin → Bool
  | .literal | .constants _ => true
  | .type home bare =>
    ("tagtemplate" : Text).isPrefixOf home || ["Obj", "StrCounter", "Fn"].any (bare = ·)
  | .length | .text | .truth => false

def TypeName.class (t : TypeName) : Builtin :=
  .type t.home t.bare

def Callable.class : Callable → Builtin
  | .template .. => .type "tagtemplate.template" "Template"
  | .chain .. => .type "tagtemplate.template" "Chain"
  | .builtin (.constants _) => .type "enum" "EnumType"
  | c => c.typeName.class

def Cell.class : Cell → Builtin
  | .literal _ => .literal
  | .slot _ => .type "tagtemplate.items" "Slot"
  | c => c.typeName.class

def Value.class (v : Value) : Reading Builtin := do
  match v with
  | .key (.text _) => return .text
  | .key (.bool _) => return .truth
  | .key (.strategy _) => return .constants .strategies
  | .kind _ => return .constants .itemKinds
  | .object a => return (← Reading.cell a).class
  | .callable c => return c.class
  | v => return (← v.typeName).class

def Value.ownerName (v : Value) : Reading Text := do
  match v with
  | .callable (.builtin b) =>
    match b.className? with
    | some name => return "type object " ++ Fault.quoted name
    | none => return Fault.object (← v.fullTypeName)
  | v => return Fault.object (← v.fullTypeName)

end Stencil
