import Stencil.ErrorClass
import Stencil.Value
import Stencil.Text.Encoding
import Stencil.Text.Quoted

/-!
Why an operation fails: a cause, its class and its message.
-/

namespace Stencil

inductive FieldChange
  | assign
  | delete
deriving DecidableEq

inductive SequenceKind
  | list
  | tuple
  | deque
  | text
  | bytes
  | byteArray
  | range
deriving DecidableEq

/-- What is done to values inside values, to any depth. -/
inductive Descent
  | compare
  | show
  | text
  | call
deriving DecidableEq

inductive Fault
  -- The shape of a template.
  | singleString
  | fragmentType (index : Nat) (typeName : Text)
  | textType (typeName : Text)
  | bytesForText
  | itemsWithTemplateString
  -- The use of a template.
  | invalidContext (context : Value) (typeName : Text)
  | invalidReceiver (receiver : Value) (typeName : Text)
  | invalidContinuation (continuation : Value) (typeName : Text)
  | illegalConstruction
  | immutable
  | frozenField (change : FieldChange) (name : Text)
  -- The run of an emitted program or of a fold.
  | unboundName (name : Text)
  | itemRange (index : Nat)
  | slotWithoutFragment
  -- A routine, or an attribute that is computed.
  | raised (cls : ErrorClass) (message : Text)
  -- An operation that a value does not have.
  | notCallable (typeName : Text)
  | notIterable (typeName : Text)
  | notSubscriptable (typeName : Text)
  | classNotSubscriptable (className : Text)
  | noItemAssignment (typeName : Text)
  | noLength (typeName : Text)
  | noMembership (typeName : Text)
  | notRepeatable (typeName : Text)
  | unhashable (typeName : Text)
  | unhashableNumber
  | missingAttribute (owner : Text) (name : Text)
  /-- A host object words a missing attribute in a way of its own. -/
  | missingHostAttribute (owner : Text) (name : Text)
  | fixedAttribute (owner : Text) (name : Text)
  | unwritableAttribute (typeName : Text) (name : Text)
  | readOnlyAttribute
  /-- The type of a value is one of its attributes. -/
  | typeKept
  | typeChange
  | typeRequired (typeName : Text)
  | dictionaryKept
  | dictionaryRequired (typeName : Text)
  | partRequired (name typeName : Text)
  | constantProperty (change : FieldChange) (name : Text)
  | fixedConstant (change : FieldChange) (family name : Text)
  | fixedType (className : Text) (name : Text)
  /-- The value of a wrapper, deleted once more. -/
  | valueDeleted
  -- A key, position or member that does not fit.
  | missingKey (shown : Text)
  | positionType (kind : SequenceKind) (typeName : Text)
  | positionRange (kind : SequenceKind) (assigning : Bool)
  | integerType (typeName : Text)
  | byteRange
  | byteMembership (typeName : Text)
  -- A number or an encoded text that does not fit.
  | signalingComparison
  | integerText (t : Text)
  | integerDigits (digits : Nat)
  | floatText (t : Text)
  | decimalText
  | decimalRange
  | undecodable (encoding : Encoding) (bytes : Undecodable)
  | unencodable (surrogates : Unencodable)
  /-- A variable of the environment ends at its first null. -/
  | nullInVariable
  -- Limits.
  | digitLimit
  | lengthLimit
  | repetitionLimit
  | factorLimit
  | repeatedText
  | repeatedBytes
  | positionLimit
  | depthLimit (descent : Descent)
  | generatorStopped
  -- The number of arguments.
  | missingArgument (function parameter : Text)
  | excessArguments (function : Text) (takes given : Nat)
  | exactArguments (function : Text) (takes given : Nat)
  | noArguments (function : Text)
  | operatorArguments
  | rangeArguments (given : Nat)
  | rangeStep
  | lengthArguments (given : Nat)
  | truthArguments
  /-- What is given in place of a list of arguments has no members. -/
  | spreadArguments (function typeName : Text)
  | encodingType (typeName : Text)
  | decodingType (typeName : Text)
  | decodingText
  | unknownEncoding (name : Text)
  | otherConversion (name : Text)
  | nullInName
  | noConstant (shown family : Text)
  -- Settings.
  | settingInput
  | settingSurrogate
  | settingFrozen

namespace SequenceKind

def name : SequenceKind → Text
  | .list => "list"
  | .tuple => "tuple"
  | .deque => "deque"
  | .text => "string"
  | .bytes => "byte"
  | .byteArray => "bytearray"
  | .range => "range"

def wrongType (kind : SequenceKind) (typeName : Text) : Text :=
  match kind with
  | .deque => "sequence index must be integer, not '" ++ typeName ++ "'"
  | .text => "string indices must be integers, not '" ++ typeName ++ "'"
  | kind => kind.name ++ " indices must be integers or slices, not " ++ typeName

def outOfRange (kind : SequenceKind) (assigning : Bool) : Text :=
  match kind with
  | .bytes => "index out of range"
  | .range => "range object index out of range"
  | .list => if assigning then "list assignment index out of range" else "list index out of range"
  | kind => kind.name ++ " index out of range"

end SequenceKind

def Descent.scene : Descent → Text
  | .compare => " in comparison"
  | .show => " while getting the repr of an object"
  | .text => " while getting the str of an object"
  | .call => ""

def Undecodable.place (u : Undecodable) : Text :=
  if u.count = 1 then
    "byte 0x" ++ Numeral.hex 2 u.first.toNat ++ " in position " ++ Numeral.decimal u.position
  else
    "bytes in position " ++ Numeral.decimal u.position ++ "-" ++
      Numeral.decimal (u.position + u.count - 1)

def Unencodable.place (u : Unencodable) : Text :=
  if u.count = 1 then
    "character '" ++ Escape.numeric u.first ++ "' in position " ++ Numeral.decimal u.position
  else
    "characters in position " ++ Numeral.decimal u.position ++ "-" ++
      Numeral.decimal (u.position + u.count - 1)

namespace Fault

def quoted (name : Text) : Text :=
  "'" ++ name ++ "'"

def object (typeName : Text) : Text :=
  quoted typeName ++ " object"

def arguments (n : Nat) : Text :=
  Numeral.decimal n ++ (if n = 1 then " positional argument" else " positional arguments")

/-- At most this many characters of a text that is no integer are shown. -/
def shownLength : Nat := 200

def message : Fault → Text
  | singleString => "fragments must be a sequence of strings, not a single string"
  | fragmentType index typeName =>
    "fragment " ++ Numeral.decimal index ++ " must be a string, got " ++ typeName
  | textType typeName => "expected string or bytes-like object, got " ++ quoted typeName
  | bytesForText => "cannot use a string pattern on a bytes-like object"
  | itemsWithTemplateString => "items cannot be passed alongside a template string"
  | invalidContext _ typeName => "context must be a structured value, got " ++ typeName
  | invalidReceiver _ typeName => "receiver must be callable, got " ++ typeName
  | invalidContinuation _ typeName => "continuation must be callable, got " ++ typeName
  | illegalConstruction => "Illegal constructor."
  | immutable => "Template is immutable"
  | frozenField .assign name => "cannot assign to field " ++ Quoted.text name
  | frozenField .delete name => "cannot delete field " ++ Quoted.text name
  | unboundName name => "name " ++ quoted name ++ " is not defined"
  | itemRange _ => "tuple index out of range"
  | slotWithoutFragment => "can only concatenate str (not \"Slot\") to str"
  | raised _ message => message
  | notCallable typeName => object typeName ++ " is not callable"
  | notIterable typeName => object typeName ++ " is not iterable"
  | notSubscriptable typeName => object typeName ++ " is not subscriptable"
  | classNotSubscriptable className => "type " ++ quoted className ++ " is not subscriptable"
  | noItemAssignment typeName => object typeName ++ " does not support item assignment"
  | noMembership typeName => "argument of type " ++ quoted typeName ++ " is not iterable"
  | notRepeatable typeName =>
    "unsupported operand type(s) for *: " ++ quoted typeName ++ " and 'int'"
  | noLength typeName => "object of type " ++ quoted typeName ++ " has no len()"
  | unhashable typeName => "unhashable type: " ++ quoted typeName
  | unhashableNumber => "Cannot hash a signaling NaN value"
  | missingAttribute owner name => owner ++ " has no attribute " ++ quoted name
  | missingHostAttribute owner name => owner ++ " has no attribute " ++ Quoted.text name
  | fixedAttribute owner name => owner ++ " attribute " ++ quoted name ++ " is read-only"
  | unwritableAttribute typeName name =>
    "attribute " ++ quoted name ++ " of " ++ quoted typeName ++ " objects is not writable"
  | readOnlyAttribute => "readonly attribute"
  | typeKept => "can't delete __class__ attribute"
  | typeChange =>
    "__class__ assignment only supported for mutable types or ModuleType subclasses"
  | typeRequired typeName => "__class__ must be set to a class, not " ++ object typeName
  | dictionaryKept => "cannot delete __dict__"
  | dictionaryRequired typeName =>
    "__dict__ must be set to a dictionary, not a " ++ quoted typeName
  | partRequired name typeName => name ++ " must be set to a " ++ typeName ++ " object"
  | constantProperty .assign name => "<enum 'Enum'> cannot set attribute " ++ Quoted.text name
  | constantProperty .delete name => "<enum 'Enum'> cannot delete attribute " ++ Quoted.text name
  | fixedConstant .assign _ name => "cannot reassign member " ++ Quoted.text name
  | fixedConstant .delete family name =>
    Quoted.text family ++ " cannot delete member " ++ Quoted.text name ++ "."
  | fixedType className name =>
    "cannot set " ++ Quoted.text name ++ " attribute of immutable type " ++ quoted className
  | valueDeleted => "value"
  | missingKey shown => shown
  | positionType kind typeName => kind.wrongType typeName
  | positionRange kind assigning => kind.outOfRange assigning
  | integerType typeName => object typeName ++ " cannot be interpreted as an integer"
  | byteRange => "byte must be in range(0, 256)"
  | byteMembership typeName => "a bytes-like object is required, not " ++ quoted typeName
  | signalingComparison | decimalRange => "[<class 'decimal.InvalidOperation'>]"
  | integerText t =>
    "invalid literal for int() with base 10: " ++ (Quoted.text t).take shownLength
  | integerDigits digits =>
    "Exceeds the limit (4300 digits) for integer string conversion: value has " ++
      Numeral.decimal digits ++ " digits; use sys.set_int_max_str_digits() to increase the limit"
  | floatText t => "could not convert string to float: " ++ Quoted.text t
  | decimalText => "[<class 'decimal.ConversionSyntax'>]"
  | undecodable encoding u =>
    quoted encoding.title ++ " codec can't decode " ++ u.place ++ ": " ++ u.flaw.text
  | unencodable u => "'utf-8' codec can't encode " ++ u.place ++ ": surrogates not allowed"
  | nullInVariable => "embedded null byte"
  | digitLimit =>
    "Exceeds the limit (4300 digits) for integer string conversion; " ++
      "use sys.set_int_max_str_digits() to increase the limit"
  | lengthLimit => "Python int too large to convert to C ssize_t"
  | factorLimit => "int too large to convert to float"
  | positionLimit | repetitionLimit => "cannot fit 'int' into an index-sized integer"
  | repeatedText => "repeated string is too long"
  | repeatedBytes => "repeated bytes are too long"
  | depthLimit descent => "maximum recursion depth exceeded" ++ descent.scene
  | generatorStopped => "generator raised StopIteration"
  | missingArgument function parameter =>
    function ++ "() missing 1 required positional argument: " ++ quoted parameter
  | excessArguments function takes given =>
    function ++ "() takes " ++ arguments takes ++ " but " ++ Numeral.decimal given ++
      (if given = 1 then " was given" else " were given")
  | exactArguments function takes given =>
    function ++ " takes exactly " ++ Numeral.decimal takes ++ " arguments (" ++
      Numeral.decimal given ++ " given)"
  | noArguments function => function ++ "() takes no arguments (1 given)"
  | operatorArguments => "expected 0 arguments, got 1"
  | rangeArguments given =>
    if given = 0 then "range expected at least 1 argument, got 0"
    else "range expected at most 3 arguments, got " ++ Numeral.decimal given
  | rangeStep => "range() arg 3 must not be zero"
  | lengthArguments given =>
    "len() takes exactly one argument (" ++ Numeral.decimal given ++ " given)"
  | truthArguments => "bool expected at most 1 argument, got 2"
  | spreadArguments function typeName =>
    function ++ "() argument after * must be an iterable, not " ++ typeName
  | encodingType typeName => "str() argument 'encoding' must be str, not " ++ typeName
  | decodingType typeName =>
    "decoding to str: need a bytes-like object, " ++ typeName ++ " found"
  | decodingText => "decoding str is not supported"
  | unknownEncoding name => "unknown encoding: " ++ name
  | otherConversion name =>
    quoted name ++ " is not a text encoding; use codecs.decode() to handle arbitrary codecs"
  | nullInName => "embedded null character"
  | noConstant shown family => shown ++ " is not a valid " ++ family
  | settingInput => "literal_error: Input should be 'auto', 'generated' or 'interpreted'"
  | settingSurrogate =>
    "string_unicode: Input should be a valid string, unable to parse raw data as a unicode string"
  | settingFrozen => "frozen_instance: Instance is frozen"

def cls : Fault → ErrorClass
  | singleString | fragmentType .. | itemsWithTemplateString => .templateStructure
  | invalidContext .. => .invalidContext
  | invalidReceiver .. => .invalidReceiver
  | invalidContinuation .. => .invalidContinuation
  | illegalConstruction => .illegalConstruction
  | immutable | missingAttribute .. | missingHostAttribute .. | fixedAttribute ..
  | unwritableAttribute .. | readOnlyAttribute | constantProperty .. | fixedConstant ..
  | valueDeleted => .attribute
  | frozenField .. => .frozenInstance
  | unboundName _ => .name
  | itemRange _ | positionRange .. | positionLimit => .index
  | raised cls _ => cls
  | missingKey _ => .key
  | unknownEncoding _ | otherConversion _ => .lookup
  | byteRange | digitLimit | integerText _ | integerDigits _ | floatText _ | rangeStep
  | nullInName | nullInVariable | noConstant .. => .value
  | signalingComparison | decimalText | decimalRange => .decimalOperation
  | undecodable .. => .unicodeDecode
  | unencodable _ => .unicodeEncode
  | lengthLimit | repetitionLimit | factorLimit | repeatedText | repeatedBytes => .overflow
  | depthLimit _ => .recursion
  | generatorStopped => .runtime
  | settingInput | settingSurrogate | settingFrozen => .validation
  | _ => .type

/-- The fault of an error that is raised by class and text. Some classes word their message anew. -/
def ofRaise (cls : ErrorClass) (text : Text) : Fault :=
  match cls with
  | .invalidContext => .invalidContext (.text text) "str"
  | .invalidReceiver => .invalidReceiver (.text text) "str"
  | .invalidContinuation => .invalidContinuation (.text text) "str"
  | .illegalConstruction => .excessArguments "IllegalConstructionError.__init__" 1 2
  | .key => .missingKey (Quoted.text text)
  | cls =>
    match cls.arity? with
    | some (function, n) => .exactArguments function n 1
    | none => .raised cls text

def noRoom : Fault :=
  .raised .memory []

def missingValue : Fault :=
  .missingAttribute (object "Literal") "value"

def missingKind : Fault :=
  .missingAttribute (object "Slot") "kind"

/-- What the error object carries, by the names of its attributes. -/
def carried : Fault → List (Text × Value)
  | invalidContext v _ => [("context", v)]
  | invalidReceiver v _ => [("receiver", v)]
  | invalidContinuation v _ => [("continuation", v)]
  | _ => []

/-- Whether an attribute that fails this way counts as one that is not there. -/
def isMissingAttribute (f : Fault) : Bool :=
  f.cls.isA .attribute

end Fault
end Stencil
