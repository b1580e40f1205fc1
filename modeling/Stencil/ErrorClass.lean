import Stencil.Text

/-!
The classes of errors and their lineage.
-/

namespace Stencil

inductive ErrorClass
  | baseException | exception
  | template | invalidContext | illegalConstruction | invalidReceiver | invalidContinuation
  | templateStructure
  | arithmetic | floatingPoint | overflow | zeroDivision
  | assertion | attribute | frozenInstance | buffer | eof
  | importError | moduleNotFound
  | lookup | index | key
  | memory | name | unboundLocal
  | os | blockingIO | childProcess | connection | brokenPipe | connectionAborted
  | connectionRefused | connectionReset | fileExists | fileNotFound | interrupted | isADirectory
  | notADirectory | permission | processLookup | timeout
  | reference | runtime | notImplemented | recursion
  | stopIteration | stopAsyncIteration
  | syntaxError | indentation | tab
  | system | type | value | unicode | unicodeDecode | unicodeEncode | unicodeTranslate
  | keyboardInterrupt | systemExit | generatorExit
  | baseGroup | group
  | warning | userWarning | deprecationWarning | pendingDeprecationWarning | syntaxWarning
  | runtimeWarning | futureWarning | importWarning | unicodeWarning | bytesWarning
  | resourceWarning | encodingWarning
  | decimalOperation
  | validation
deriving DecidableEq

namespace ErrorClass

def title : ErrorClass → String
  | .baseException => "BaseException" | .exception => "Exception"
  | .template => "TemplateError" | .invalidContext => "InvalidContextError"
  | .illegalConstruction => "IllegalConstructionError"
  | .invalidReceiver => "InvalidReceiverError"
  | .invalidContinuation => "InvalidContinuationError"
  | .templateStructure => "TemplateStructureError"
  | .arithmetic => "ArithmeticError" | .floatingPoint => "FloatingPointError"
  | .overflow => "OverflowError" | .zeroDivision => "ZeroDivisionError"
  | .assertion => "AssertionError" | .attribute => "AttributeError"
  | .frozenInstance => "FrozenInstanceError" | .buffer => "BufferError" | .eof => "EOFError"
  | .importError => "ImportError" | .moduleNotFound => "ModuleNotFoundError"
  | .lookup => "LookupError" | .index => "IndexError" | .key => "KeyError"
  | .memory => "MemoryError" | .name => "NameError" | .unboundLocal => "UnboundLocalError"
  | .os => "OSError" | .blockingIO => "BlockingIOError" | .childProcess => "ChildProcessError"
  | .connection => "ConnectionError" | .brokenPipe => "BrokenPipeError"
  | .connectionAborted => "ConnectionAbortedError"
  | .connectionRefused => "ConnectionRefusedError"
  | .connectionReset => "ConnectionResetError"
  | .fileExists => "FileExistsError" | .fileNotFound => "FileNotFoundError"
  | .interrupted => "InterruptedError" | .isADirectory => "IsADirectoryError"
  | .notADirectory => "NotADirectoryError" | .permission => "PermissionError"
  | .processLookup => "ProcessLookupError" | .timeout => "TimeoutError"
  | .reference => "ReferenceError" | .runtime => "RuntimeError"
  | .notImplemented => "NotImplementedError" | .recursion => "RecursionError"
  | .stopIteration => "StopIteration" | .stopAsyncIteration => "StopAsyncIteration"
  | .syntaxError => "SyntaxError" | .indentation => "IndentationError" | .tab => "TabError"
  | .system => "SystemError" | .type => "TypeError" | .value => "ValueError"
  | .unicode => "UnicodeError" | .unicodeDecode => "UnicodeDecodeError"
  | .unicodeEncode => "UnicodeEncodeError" | .unicodeTranslate => "UnicodeTranslateError"
  | .keyboardInterrupt => "KeyboardInterrupt" | .systemExit => "SystemExit"
  | .generatorExit => "GeneratorExit"
  | .baseGroup => "BaseExceptionGroup" | .group => "ExceptionGroup"
  | .warning => "Warning" | .userWarning => "UserWarning"
  | .deprecationWarning => "DeprecationWarning"
  | .pendingDeprecationWarning => "PendingDeprecationWarning"
  | .syntaxWarning => "SyntaxWarning" | .runtimeWarning => "RuntimeWarning"
  | .futureWarning => "FutureWarning" | .importWarning => "ImportWarning"
  | .unicodeWarning => "UnicodeWarning" | .bytesWarning => "BytesWarning"
  | .resourceWarning => "ResourceWarning" | .encodingWarning => "EncodingWarning"
  | .decimalOperation => "InvalidOperation"
  | .validation => "ValidationError"

/-- The classes above a class, nearest first, without the root of all objects. -/
def ancestors : ErrorClass → List ErrorClass
  | .baseException => []
  | .exception | .keyboardInterrupt | .systemExit | .generatorExit | .baseGroup =>
    [.baseException]
  | .group => [.baseGroup, .exception, .baseException]
  | .invalidContext | .illegalConstruction | .invalidReceiver | .invalidContinuation =>
    [.template, .type, .exception, .baseException]
  | .templateStructure => [.template, .value, .exception, .baseException]
  | .floatingPoint | .overflow | .zeroDivision | .decimalOperation =>
    [.arithmetic, .exception, .baseException]
  | .frozenInstance => [.attribute, .exception, .baseException]
  | .moduleNotFound => [.importError, .exception, .baseException]
  | .index | .key => [.lookup, .exception, .baseException]
  | .unboundLocal => [.name, .exception, .baseException]
  | .blockingIO | .childProcess | .connection | .fileExists | .fileNotFound | .interrupted
  | .isADirectory | .notADirectory | .permission | .processLookup | .timeout =>
    [.os, .exception, .baseException]
  | .brokenPipe | .connectionAborted | .connectionRefused | .connectionReset =>
    [.connection, .os, .exception, .baseException]
  | .notImplemented | .recursion => [.runtime, .exception, .baseException]
  | .indentation => [.syntaxError, .exception, .baseException]
  | .tab => [.indentation, .syntaxError, .exception, .baseException]
  | .unicode | .validation => [.value, .exception, .baseException]
  | .unicodeDecode | .unicodeEncode | .unicodeTranslate =>
    [.unicode, .value, .exception, .baseException]
  | .userWarning | .deprecationWarning | .pendingDeprecationWarning | .syntaxWarning
  | .runtimeWarning | .futureWarning | .importWarning | .unicodeWarning | .bytesWarning
  | .resourceWarning | .encodingWarning => [.warning, .exception, .baseException]
  | _ => [.exception, .baseException]

/-- A class and all above it, down to the root of all objects. -/
def lineage (c : ErrorClass) : List String :=
  (c :: c.ancestors).map title ++ ["object"]

def isA (c base : ErrorClass) : Bool :=
  c = base ∨ base ∈ c.ancestors

def all : List ErrorClass :=
  [.baseException, .exception, .template, .invalidContext, .illegalConstruction, .invalidReceiver,
   .invalidContinuation, .templateStructure, .arithmetic, .floatingPoint, .overflow, .zeroDivision,
   .assertion, .attribute, .buffer, .eof, .importError, .moduleNotFound, .lookup, .index, .key,
   .memory, .name, .unboundLocal, .os, .blockingIO, .childProcess, .connection, .brokenPipe,
   .connectionAborted, .connectionRefused, .connectionReset, .fileExists, .fileNotFound,
   .interrupted, .isADirectory, .notADirectory, .permission, .processLookup, .timeout, .reference,
   .runtime, .notImplemented, .recursion, .stopIteration, .stopAsyncIteration, .syntaxError,
   .indentation, .tab, .system, .type, .value, .unicode, .unicodeDecode, .unicodeEncode,
   .unicodeTranslate, .keyboardInterrupt, .systemExit, .generatorExit, .baseGroup, .group, .warning,
   .userWarning, .deprecationWarning, .pendingDeprecationWarning, .syntaxWarning, .runtimeWarning,
   .futureWarning, .importWarning, .unicodeWarning, .bytesWarning, .resourceWarning,
   .encodingWarning]

def systemNames : List String :=
  ["IOError", "EnvironmentError"]

def ofTitle? (title : String) : Option ErrorClass :=
  if title ∈ systemNames then some .os else all.find? (·.title == title)

/-- For the classes whose objects take a fixed number of arguments: who counts, and how many. -/
def arity? : ErrorClass → Option (String × Nat)
  | .unicodeDecode | .unicodeEncode => some ("function", 5)
  | .unicodeTranslate => some ("function", 4)
  | .baseGroup | .group => some ("BaseExceptionGroup.__new__()", 2)
  | _ => none

end ErrorClass
end Stencil
