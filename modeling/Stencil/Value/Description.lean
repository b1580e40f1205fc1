import Stencil.Value.TypeName

/-!
What types say about themselves. A value says what its type says; a class says it of its own values.
-/

namespace Stencil

def lines (ls : List Text) : Text :=
  Text.join "\n" ls

def typeDescriptions : List (Text × Text) :=
  [("bool", lines [
      "bool(x) -> bool",
      "",
      "Returns True when the argument x is true, False otherwise.",
      "The builtins True and False are the only two instances of the class bool.",
      "The class bool is a subclass of the class int, and cannot be subclassed."]),
   ("int", lines [
      "int([x]) -> integer",
      "int(x, base=10) -> integer",
      "",
      "Convert a number or string to an integer, or return 0 if no arguments",
      "are given.  If x is a number, return x.__int__().  For floating point",
      "numbers, this truncates towards zero.",
      "",
      "If x is not a number or if base is given, then x must be a string,",
      "bytes, or bytearray instance representing an integer literal in the",
      "given base.  The literal can be preceded by '+' or '-' and be surrounded",
      "by whitespace.  The base defaults to 10.  Valid bases are 0 and 2-36.",
      "Base 0 means to interpret the base from the string as an integer literal.",
      ">>> int('0b100', base=0)",
      "4"]),
   ("float", "Convert a string or number to a floating point number, if possible."),
   ("complex", lines [
      "Create a complex number from a real part and an optional imaginary part.",
      "",
      "This is equivalent to (real + imag*1j) where imag defaults to 0."]),
   ("Decimal", lines [
      "Construct a new Decimal object. 'value' can be an integer, string, tuple,",
      "or another Decimal object. If no value is given, return Decimal('0'). The",
      "context does not affect the conversion and is only passed to determine if",
      "the InvalidOperation trap is active.",
      "",
      ""]),
   ("str", lines [
      "str(object='') -> str",
      "str(bytes_or_buffer[, encoding[, errors]]) -> str",
      "",
      "Create a new string object from the given object. If encoding or",
      "errors is specified, then the object must expose a data buffer",
      "that will be decoded using the given encoding and error handler.",
      "Otherwise, returns the result of object.__str__() (if defined)",
      "or repr(object).",
      "encoding defaults to sys.getdefaultencoding().",
      "errors defaults to 'strict'."]),
   ("bytes", lines [
      "bytes(iterable_of_ints) -> bytes",
      "bytes(string, encoding[, errors]) -> bytes",
      "bytes(bytes_or_buffer) -> immutable copy of bytes_or_buffer",
      "bytes(int) -> bytes object of size given by the parameter initialized with null bytes",
      "bytes() -> empty bytes object",
      "",
      "Construct an immutable array of bytes from:",
      "  - an iterable yielding integers in range(256)",
      "  - a text string encoded using the specified encoding",
      "  - any object implementing the buffer API.",
      "  - an integer"]),
   ("bytearray", lines [
      "bytearray(iterable_of_ints) -> bytearray",
      "bytearray(string, encoding[, errors]) -> bytearray",
      "bytearray(bytes_or_buffer) -> mutable copy of bytes_or_buffer",
      "bytearray(int) -> bytes array of size given by the parameter initialized with null bytes",
      "bytearray() -> empty bytes array",
      "",
      "Construct a mutable bytearray object from:",
      "  - an iterable yielding integers in range(256)",
      "  - a text string encoded using the specified encoding",
      "  - a bytes or a buffer object",
      "  - any object implementing the buffer API.",
      "  - an integer"]),
   ("range", lines [
      "range(stop) -> range object",
      "range(start, stop[, step]) -> range object",
      "",
      "Return an object that produces a sequence of integers from start (inclusive)",
      "to stop (exclusive) by step.  range(i, j) produces i, i+1, i+2, ..., j-1.",
      "start defaults to 0, and stop is omitted!  range(4) produces 0, 1, 2, 3.",
      "These are exactly the valid indices for a list of 4 elements.",
      "When step is given, it specifies the increment (or decrement)."]),
   ("list", lines [
      "Built-in mutable sequence.",
      "",
      "If no argument is given, the constructor creates a new empty list.",
      "The argument must be an iterable if specified."]),
   ("tuple", lines [
      "Built-in immutable sequence.",
      "",
      "If no argument is given, the constructor returns an empty tuple.",
      "If iterable is specified the tuple is initialized from iterable's items.",
      "",
      "If the argument is a tuple, the return value is the same object."]),
   ("deque", lines [
      "deque([iterable[, maxlen]]) --> deque object",
      "",
      "A list-like sequence optimized for data accesses near its endpoints."]),
   ("set", lines [
      "set() -> new empty set object",
      "set(iterable) -> new set object",
      "",
      "Build an unordered collection of unique elements."]),
   ("dict", lines [
      "dict() -> new empty dictionary",
      "dict(mapping) -> new dictionary initialized from a mapping object's",
      "    (key, value) pairs",
      "dict(iterable) -> new dictionary initialized as if via:",
      "    d = \x7b\x7d",
      "    for k, v in iterable:",
      "        d[k] = v",
      "dict(**kwargs) -> new dictionary initialized with the name=value pairs",
      "    in the keyword argument list.  For example:  dict(one=1, two=2)"]),
   ("OrderedDict", "Dictionary that remembers insertion order"),
   ("defaultdict", lines [
      "defaultdict(default_factory=None, /, [...]) --> dict with default factory",
      "",
      "The default factory is called without arguments to produce",
      "a new value when a key is not present, in __getitem__ only.",
      "A defaultdict compares equal to a dict with the same items.",
      "All remaining arguments are treated the same as if they were",
      "passed to the dict constructor, including keyword arguments.",
      ""]),
   ("SimpleNamespace", lines [
      "A simple attribute-based namespace.",
      "",
      "SimpleNamespace(**kwargs)"]),
   ("type", lines [
      "type(object) -> the object's type",
      "type(name, bases, dict, **kwds) -> a new type"]),
   ("function", lines [
      "Create a function object.",
      "",
      "  code",
      "    a code object",
      "  globals",
      "    the globals dictionary",
      "  name",
      "    a string that overrides the name from the code object",
      "  argdefs",
      "    a tuple that specifies the default argument values",
      "  closure",
      "    a tuple that supplies the bindings for free variables"]),
   ("method", "Create a bound instance method object."),
   ("EnumType", lines [
      "",
      "    Metaclass for Enum",
      "    "]),
   ("object", lines [
      "The base class of the class hierarchy.",
      "",
      "When called, it accepts no arguments and returns a new featureless",
      "instance that has no instance attributes and cannot be given any.",
      ""]),
   ("Literal", lines [
      "Wraps a value so it is inserted verbatim instead of looked up.",
      "",
      "    Usage:",
      "        compile_template([\"sum=\"], [literal(3)])(\x7b\x7d)  # \"sum=3\"",
      "    "]),
   ("Slot", "A classified item."),
   ("Template", lines [
      "An evaluator that can be conditionally extended with if_().",
      "",
      "    Not instantiable directly; use compile_template() or as_template().",
      "    "]),
   ("Chain", "Evaluator joining a head and a tail with a delimiter."),
   ("Strategy", "Compilation strategy."),
   ("ItemKind", "How an item contributes to the rendered string.")]

def Builtin.description (b : Builtin) : Value :=
  match b.className? with
  | none => .text "Return the number of items in a container."
  | some name => ((typeDescriptions.lookup name).map Value.text).getD .nothing

/-- What a value says about itself, where it has something to say or says nothing. -/
def Value.description? (v : Value) : Reading (Option Value) := do
  match v with
  | .callable (.builtin b) => return some b.description
  | .callable (.tag ..) | .callable (.evaluator ..) => return some .nothing
  | .callable (.operation ..) => return none
  | v => return some (← v.class).description

end Stencil
