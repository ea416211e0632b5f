/-! Names that need no declaration in an annotation: the built-in names, and the names of the
`typing` module. -/
namespace TypedTemplate

def builtinNames : List String := [
  "ArithmeticError", "AssertionError", "AttributeError", "BaseException", "BaseExceptionGroup",
  "BlockingIOError", "BrokenPipeError", "BufferError", "BytesWarning", "ChildProcessError",
  "ConnectionAbortedError", "ConnectionError", "ConnectionRefusedError", "ConnectionResetError",
  "DeprecationWarning", "EOFError", "Ellipsis", "EncodingWarning", "EnvironmentError", "Exception",
  "ExceptionGroup", "False", "FileExistsError", "FileNotFoundError", "FloatingPointError",
  "FutureWarning", "GeneratorExit", "IOError", "ImportError", "ImportWarning", "IndentationError",
  "IndexError", "InterruptedError", "IsADirectoryError", "KeyError", "KeyboardInterrupt",
  "LookupError", "MemoryError", "ModuleNotFoundError", "NameError", "None", "NotADirectoryError",
  "NotImplemented", "NotImplementedError", "OSError", "OverflowError", "PendingDeprecationWarning",
  "PermissionError", "ProcessLookupError", "RecursionError", "ReferenceError", "ResourceWarning",
  "RuntimeError", "RuntimeWarning", "StopAsyncIteration", "StopIteration", "SyntaxError",
  "SyntaxWarning", "SystemError", "SystemExit", "TabError", "TimeoutError", "True", "TypeError",
  "UnboundLocalError", "UnicodeDecodeError", "UnicodeEncodeError", "UnicodeError",
  "UnicodeTranslateError", "UnicodeWarning", "UserWarning", "ValueError", "Warning",
  "ZeroDivisionError", "abs", "aiter", "all", "anext", "any", "ascii", "bin", "bool", "breakpoint",
  "bytearray", "bytes", "callable", "chr", "classmethod", "compile", "complex", "copyright",
  "credits", "delattr", "dict", "dir", "divmod", "enumerate", "eval", "exec", "exit", "filter",
  "float", "format", "frozenset", "getattr", "globals", "hasattr", "hash", "help", "hex", "id",
  "input", "int", "isinstance", "issubclass", "iter", "len", "license", "list", "locals", "map",
  "max", "memoryview", "min", "next", "object", "oct", "open", "ord", "pow", "print", "property",
  "quit", "range", "repr", "reversed", "round", "set", "setattr", "slice", "sorted", "staticmethod",
  "str", "sum", "super", "tuple", "type", "vars", "zip"]

def typingNames : List String := [
  "ABCMeta", "AbstractSet", "Annotated", "Any", "AnyStr", "AsyncContextManager", "AsyncGenerator",
  "AsyncIterable", "AsyncIterator", "Awaitable", "BinaryIO", "ByteString", "CT_co", "Callable",
  "ChainMap", "ClassVar", "Collection", "Concatenate", "Container", "ContextManager", "Coroutine",
  "Counter", "DefaultDict", "Deque", "Dict", "EXCLUDED_ATTRIBUTES", "Final", "ForwardRef",
  "FrozenSet", "Generator", "Generic", "GenericAlias", "Hashable", "IO", "ItemsView", "Iterable",
  "Iterator", "KT", "KeysView", "List", "Literal", "LiteralString", "Mapping", "MappingView",
  "Match", "MethodDescriptorType", "MethodWrapperType", "MutableMapping", "MutableSequence",
  "MutableSet", "NamedTuple", "NamedTupleMeta", "Never", "NewType", "NoReturn", "NotRequired",
  "Optional", "OrderedDict", "ParamSpec", "ParamSpecArgs", "ParamSpecKwargs", "Pattern", "Protocol",
  "Required", "Reversible", "Self", "Sequence", "Set", "Sized", "SupportsAbs", "SupportsBytes",
  "SupportsComplex", "SupportsFloat", "SupportsIndex", "SupportsInt", "SupportsRound", "T",
  "TYPE_CHECKING", "T_co", "T_contra", "Text", "TextIO", "Tuple", "Type", "TypeAlias", "TypeGuard",
  "TypeVar", "TypeVarTuple", "TypedDict", "Union", "Unpack", "VT", "VT_co", "V_co", "ValuesView",
  "WrapperDescriptorType", "abstractmethod", "assert_never", "assert_type", "cast",
  "clear_overloads", "collections", "contextlib", "dataclass_transform", "defaultdict", "final",
  "functools", "get_args", "get_origin", "get_overloads", "get_type_hints", "io", "is_typeddict",
  "no_type_check", "no_type_check_decorator", "operator", "overload", "re", "reveal_type",
  "runtime_checkable", "stdlib_re", "sys", "types", "warnings"]

def isBuiltin (name : String) : Bool := builtinNames.contains name

def isTyping (name : String) : Bool := typingNames.contains name

end TypedTemplate
