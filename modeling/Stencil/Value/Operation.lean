import Stencil.Value.TypeName

/-!
The operations that the values of each type have, by their names. An operation that is read as an
attribute is a callable bound to its value.
-/

namespace Stencil

namespace Operation

def names (line : Text) : List Text :=
  line.words

def ofObject : List Text :=
  names <|
    "__delattr__ __dir__ __eq__ __format__ __ge__ __getattribute__ __getstate__ __gt__ " ++
    "__hash__ __init__ __init_subclass__ __le__ __lt__ __ne__ __new__ __reduce__ " ++
    "__reduce_ex__ __repr__ __setattr__ __sizeof__ __str__ __subclasshook__"

def ofNumber : List Text :=
  names <|
    "__abs__ __add__ __bool__ __mul__ __neg__ __pos__ __pow__ __radd__ __rmul__ __rpow__ " ++
    "__rsub__ __rtruediv__ __sub__ __truediv__ conjugate"

def ofReal : List Text :=
  names <|
    "__ceil__ __divmod__ __float__ __floor__ __floordiv__ __int__ __mod__ __rdivmod__ " ++
    "__rfloordiv__ __rmod__ __round__ __trunc__ as_integer_ratio"

def ofInteger : List Text :=
  names <|
    "__and__ __getnewargs__ __index__ __invert__ __lshift__ __or__ __rand__ __rlshift__ " ++
    "__ror__ __rrshift__ __rshift__ __rxor__ __xor__ bit_count bit_length from_bytes to_bytes"

def ofFloat : List Text :=
  names <|
    "__getformat__ __getnewargs__ fromhex hex is_integer"

def ofComplex : List Text :=
  names <|
    "__complex__ __getnewargs__"

def ofDecimal : List Text :=
  names <|
    "__complex__ __copy__ __deepcopy__ adjusted as_tuple canonical compare compare_signal " ++
    "compare_total compare_total_mag copy_abs copy_negate copy_sign exp fma from_float " ++
    "is_canonical is_finite is_infinite is_nan is_normal is_qnan is_signed is_snan " ++
    "is_subnormal is_zero ln log10 logb logical_and logical_invert logical_or logical_xor max " ++
    "max_mag min min_mag next_minus next_plus next_toward normalize number_class quantize " ++
    "radix remainder_near rotate same_quantum scaleb shift sqrt to_eng_string to_integral " ++
    "to_integral_exact to_integral_value"

def ofSequence : List Text :=
  names <|
    "__contains__ __getitem__ __iter__ __len__ count index"

def ofString : List Text :=
  names <|
    "__add__ __mod__ __mul__ __rmod__ __rmul__ capitalize center endswith expandtabs find " ++
    "isalnum isalpha isascii isdigit islower isspace istitle isupper join ljust lower lstrip " ++
    "maketrans partition removeprefix removesuffix replace rfind rindex rjust rpartition " ++
    "rsplit rstrip split splitlines startswith strip swapcase title translate upper zfill"

def ofText : List Text :=
  names <|
    "__getnewargs__ casefold encode format format_map isdecimal isidentifier isnumeric " ++
    "isprintable"

def ofBytes : List Text :=
  names <|
    "__bytes__ __getnewargs__ decode fromhex hex"

def ofByteArray : List Text :=
  names <|
    "__alloc__ __delitem__ __iadd__ __imul__ __setitem__ append clear copy decode extend " ++
    "fromhex hex insert pop remove reverse"

/-- What lists have, open at one end or at both. -/
def ofList : List Text :=
  names <|
    "__add__ __class_getitem__ __delitem__ __iadd__ __imul__ __mul__ __reversed__ __rmul__ " ++
    "__setitem__ append clear copy extend insert pop remove reverse"

def ofDeque : List Text :=
  names <|
    "__copy__ appendleft extendleft popleft rotate"

def ofTuple : List Text :=
  names <|
    "__add__ __class_getitem__ __getnewargs__ __mul__ __rmul__"

def ofMapping : List Text :=
  names <|
    "__class_getitem__ __contains__ __getitem__ __ior__ __iter__ __len__ __or__ __reversed__ " ++
    "__ror__ copy get items keys values"

def ofDictionary : List Text :=
  names <|
    "__delitem__ __setitem__ clear fromkeys pop popitem setdefault update"

def ofSet : List Text :=
  names <|
    "__and__ __class_getitem__ __contains__ __iand__ __ior__ __isub__ __iter__ __ixor__ " ++
    "__len__ __or__ __rand__ __ror__ __rsub__ __rxor__ __sub__ __xor__ add clear copy " ++
    "difference difference_update discard intersection intersection_update isdisjoint " ++
    "issubset issuperset pop remove symmetric_difference symmetric_difference_update union " ++
    "update"

def ofConstant : List Text :=
  names <|
    "__copy__ __deepcopy__ _generate_next_value_ _missing_ _new_member_"

def ofClass : List Text :=
  names <|
    "__base__ __call__ __instancecheck__ __or__ __prepare__ __ror__ __subclasscheck__ " ++
    "__subclasses__ mro"

end Operation

open Operation

/-- The operations that a value has besides those of every value. -/
def Key.operations : Key → List Text
  | .text _ => ofSequence ++ ofString ++ ofText
  | .strategy _ => "_value_repr_" :: (ofConstant ++ ofSequence ++ ofString ++ ofText)
  | .int _ | .bool _ => ofNumber ++ ofReal ++ ofInteger
  | .float _ => ofNumber ++ ofReal ++ ofFloat

def Builtin.operations : Builtin → List Text
  | .length => ["__call__"]
  | .text => ofClass ++ ofSequence ++ ofString ++ ofText
  | .truth => ofClass ++ ofNumber ++ ofReal ++ ofInteger
  | .constants .strategies => ofClass ++ ofConstant ++ ofSequence ++ ofString ++ ofText
  | .constants .itemKinds => ofClass ++ ofConstant
  | .literal | .type .. => ofClass

def Callable.operations : Callable → List Text
  | .builtin b => b.operations
  | .template .. => ["__call__", "_wrap", "if_"]
  | .tag .. | .evaluator .. => ["__call__", "__get__"]
  | .routine _ | .chain .. | .operation .. => ["__call__"]

def MappingForm.operations : MappingForm → List Text
  | .plain => ofMapping ++ ofDictionary
  | .ordered => "move_to_end" :: (ofMapping ++ ofDictionary)
  | .withDefault _ => "__copy__" :: "__missing__" :: (ofMapping ++ ofDictionary)
  | .proxy => ofMapping
  | .hosted .. => ofMapping ++ ofDictionary

def Cell.operations : Cell → List Text
  | .list _ => "sort" :: (ofSequence ++ ofList)
  | .tuple _ => ofSequence ++ ofTuple
  | .deque _ => ofSequence ++ ofList ++ ofDeque
  | .set _ => ofSet
  | .bytes _ => ofSequence ++ ofString ++ ofByteArray
  | .mapping form _ => form.operations
  | .plain .. => ["__getattr__"]
  | .routine .. => ["__call__"]
  | .record _ | .counter _ | .literal _ | .slot _ => []

def Value.operations (v : Value) : Reading (List Text) := do
  match v with
  | .nothing => return ["__bool__"]
  | .key k => return k.operations
  | .complex .. => return ofNumber ++ ofComplex
  | .decimal _ => return ofNumber ++ ofReal ++ ofDecimal
  | .kind _ => return ofConstant
  | .bytes _ => return ofSequence ++ ofString ++ ofBytes
  | .byteArray _ => return ofSequence ++ ofString ++ ofByteArray
  | .part .. => return ["__delete__", "__get__", "__set__"]
  | .foreign .. => return []
  | .range .. => return "__bool__" :: "__reversed__" :: ofSequence
  | .object a => return (← Reading.cell a).operations
  | .callable c => return c.operations

def Value.hasOperation (v : Value) (name : Text) : Reading Bool := do
  return ofObject.contains name || (← v.operations).contains name

end Stencil
