set_option autoImplicit false

/-!
# Classes of values

Every value belongs to a class, which has a name, a longer name under which it is shown, and a
place in the order of classes.  Classes are values themselves and can be called to make values.

The place in the order decides what is an instance of what, and there are classes for errors too,
each below the more general ones (`errorParents`).  Classes are known by name where an expression
mentions them (`ofName?`); there are others that no name leads to, such as those of iterators, and
they are reached from a value only.
-/

namespace BoundSql.Value

/-- A class of values. -/
inductive Class where
  | object | none | ellipsis | notImplemented
  | bool | int | float | complex | str | bytes
  | tuple | list | dict | set | frozenset | range | slice
  | enumerate | zip | map | filter | reversed | generator
  | function | builtin | type | abstractType
  /-- objects that are nothing but their attributes -/
  | record
  /-- the common class of the pieces of queries -/
  | node
  | literal | argument | splat | sql
  /-- a query written out, with its parameters -/
  | compiled
  /-- a class of errors -/
  | error (name : String)
  /-- any other class -/
  | named (name : String)
  deriving DecidableEq, Repr, Inhabited

namespace Class

/-- The name of a class. -/
def name : Class → String
  | object => "object"
  | none => "NoneType"
  | ellipsis => "ellipsis"
  | notImplemented => "NotImplementedType"
  | bool => "bool"
  | int => "int"
  | float => "float"
  | complex => "complex"
  | str => "str"
  | bytes => "bytes"
  | tuple => "tuple"
  | list => "list"
  | dict => "dict"
  | set => "set"
  | frozenset => "frozenset"
  | range => "range"
  | slice => "slice"
  | enumerate => "enumerate"
  | zip => "zip"
  | map => "map"
  | filter => "filter"
  | reversed => "reversed"
  | generator => "generator"
  | function => "function"
  | builtin => "builtin_function_or_method"
  | type => "type"
  | abstractType => "ABCMeta"
  | record => "SimpleNamespace"
  | node => "SqlNode"
  | literal => "Literal"
  | argument => "Argument"
  | splat => "SplatArgs"
  | sql => "Sql"
  | compiled => "CompiledQuery"
  | error name => name
  | named name => name

/-- The module that a class is shown with, if any. -/
def module : Class → Option String
  | record => some "types"
  | abstractType => some "abc"
  | node | literal | argument | splat | sql => some "sqlstrings.abstract_syntax_tree.models"
  | compiled => some "sqlstrings.compiler.compiled_query"
  | _ => .none

/-- The name of a class behind that of its module, if it is shown with one. -/
def fullName (c : Class) : String :=
  match c.module with
  | some m => m ++ "." ++ c.name
  | .none => c.name

/-- How a class is shown. -/
def shown (c : Class) : String := "<class '" ++ c.fullName ++ "'>"

/-- How a class is shown among others that stand for one. -/
def shownInUnion (c : Class) : String := if c = none then "None" else c.fullName

/-- The class of a class. -/
def classOf : Class → Class
  | node | literal | argument | splat | sql => abstractType
  | _ => type

/-- Errors that stand above others. -/
def errorParents : List (String × String) :=
  [("ArithmeticError", "Exception"), ("AssertionError", "Exception"),
    ("AttributeError", "Exception"), ("EOFError", "Exception"), ("ImportError", "Exception"),
    ("LookupError", "Exception"), ("MemoryError", "Exception"), ("NameError", "Exception"),
    ("OSError", "Exception"), ("RuntimeError", "Exception"), ("StopIteration", "Exception"),
    ("SyntaxError", "Exception"), ("SystemError", "Exception"), ("TypeError", "Exception"),
    ("ValueError", "Exception"), ("Warning", "Exception"), ("BufferError", "Exception"),
    ("OverflowError", "ArithmeticError"), ("ZeroDivisionError", "ArithmeticError"),
    ("FloatingPointError", "ArithmeticError"), ("IndexError", "LookupError"),
    ("KeyError", "LookupError"), ("NotImplementedError", "RuntimeError"),
    ("RecursionError", "RuntimeError"), ("UnboundLocalError", "NameError"),
    ("UnicodeError", "ValueError"), ("UnicodeDecodeError", "UnicodeError"),
    ("UnicodeEncodeError", "UnicodeError"), ("ModuleNotFoundError", "ImportError"),
    ("FileNotFoundError", "OSError"), ("PermissionError", "OSError"), ("TimeoutError", "OSError"),
    ("StopAsyncIteration", "Exception"), ("Exception", "BaseException"),
    ("KeyboardInterrupt", "BaseException"), ("SystemExit", "BaseException"),
    ("GeneratorExit", "BaseException"), ("BaseExceptionGroup", "BaseException"),
    ("ExceptionGroup", "BaseExceptionGroup"), ("ReferenceError", "Exception"),
    ("BlockingIOError", "OSError"), ("ChildProcessError", "OSError"),
    ("ConnectionError", "OSError"), ("BrokenPipeError", "ConnectionError"),
    ("ConnectionAbortedError", "ConnectionError"), ("ConnectionRefusedError", "ConnectionError"),
    ("ConnectionResetError", "ConnectionError"), ("FileExistsError", "OSError"),
    ("InterruptedError", "OSError"), ("IsADirectoryError", "OSError"),
    ("NotADirectoryError", "OSError"), ("ProcessLookupError", "OSError"),
    ("IndentationError", "SyntaxError"), ("TabError", "IndentationError"),
    ("UnicodeTranslateError", "UnicodeError"), ("BytesWarning", "Warning"),
    ("DeprecationWarning", "Warning"), ("EncodingWarning", "Warning"),
    ("FutureWarning", "Warning"), ("ImportWarning", "Warning"),
    ("PendingDeprecationWarning", "Warning"), ("ResourceWarning", "Warning"),
    ("RuntimeWarning", "Warning"), ("SyntaxWarning", "Warning"), ("UnicodeWarning", "Warning"),
    ("UserWarning", "Warning")]

/-- The class directly above a class other than `object`. -/
def parent : Class → Class
  | bool => int
  | literal | argument | splat | sql => node
  | abstractType => type
  | error name =>
      match errorParents.lookup name with
      | some above => error above
      | .none => object
  | _ => object

/-- Whether a class is another one or below it. -/
def isBelow (c above : Class) : Bool := climb 8 c
where
  /-- The chain of classes above a class has at most `fuel` links. -/
  climb : Nat → Class → Bool
    | 0, _ => false
    | fuel + 1, c =>
        if c = above then true else if c = object then false else climb fuel c.parent

/-- The classes that are known by name. -/
def builtins : List Class :=
  [object, bool, int, float, complex, str, bytes, tuple, list, dict, set, frozenset, range, slice,
    enumerate, zip, map, filter, reversed, type]
    ++ ["bytearray", "memoryview", "property", "staticmethod", "classmethod", "super"].map named
    ++ errorParents.map (fun e => error e.1) ++ [error "BaseException"]

/-- Other names under which classes are known. -/
def aliases : List (String × Class) :=
  [("IOError", error "OSError"), ("EnvironmentError", error "OSError")]

/-- The class that a name stands for when it is bound to nothing else. -/
def ofName? (id : String) : Option Class :=
  match builtins.find? (·.name == id) with
  | some c => some c
  | .none => aliases.lookup id

end Class

end BoundSql.Value
