import BoundSql.Value.Arithmetic
import BoundSql.Value.Collection
import BoundSql.Value.Element
set_option autoImplicit false

/-!
# Attributes

What can be read behind a dot: the fields of objects and of the pieces of queries, the parts of
numbers and ranges, and the methods that the classes of values have.  The pieces of queries
cannot be changed.

Which methods a class has is a table of names, and reading one of them yields a method together with
its value; it is called elsewhere.  Reading may fail, with the class and the name told.  Records,
functions and compiled queries have attributes that can be set; a piece of a query is frozen, and
most other values have none.
-/

namespace BoundSql.Value

/-! ## Methods -/

/-- The methods of the classes that have some. -/
def methodNames : Class → List String
  | .str =>
      ["upper", "lower", "strip", "lstrip", "rstrip", "split", "rsplit", "join", "replace",
        "startswith", "endswith", "format", "format_map", "find", "rfind", "index", "rindex",
        "count", "title", "capitalize", "swapcase", "casefold", "isdigit", "isdecimal",
        "isnumeric", "isalpha", "isalnum", "isspace", "isupper", "islower", "istitle", "isascii",
        "isidentifier", "isprintable", "zfill", "center", "ljust", "rjust", "partition",
        "rpartition", "splitlines", "removeprefix", "removesuffix", "expandtabs", "encode"]
  | .bytes =>
      ["decode", "hex", "upper", "lower", "strip", "lstrip", "rstrip", "split", "join", "replace",
        "startswith", "endswith", "find", "index", "count"]
  | .list =>
      ["append", "pop", "clear", "index", "count", "extend", "insert", "remove", "reverse", "sort",
        "copy"]
  | .tuple | .range => ["index", "count"]
  | .dict =>
      ["get", "keys", "values", "items", "update", "pop", "popitem", "setdefault", "clear", "copy",
        "fromkeys"]
  | .set =>
      ["add", "discard", "remove", "pop", "clear", "update", "copy", "union", "intersection",
        "difference", "symmetric_difference", "issubset", "issuperset", "isdisjoint",
        "intersection_update", "difference_update", "symmetric_difference_update"]
  | .frozenset =>
      ["copy", "union", "intersection", "difference", "symmetric_difference", "issubset",
        "issuperset", "isdisjoint"]
  | .int | .bool =>
      ["bit_length", "bit_count", "conjugate", "as_integer_ratio", "to_bytes", "from_bytes"]
  | .float => ["is_integer", "as_integer_ratio", "conjugate", "hex", "fromhex"]
  | .complex => ["conjugate"]
  | .slice => ["indices"]
  | .compiled => ["render"]
  | .generator => ["send", "close", "throw"]
  | .named "dict_keys" | .named "dict_items" => ["isdisjoint"]
  | _ => []

/-- Methods with names of their own that all values have. -/
def commonMethods : List String := ["__str__", "__repr__", "__eq__", "__ne__", "__format__"]

/-- Classes whose values have a length. -/
def isSized : Class → Bool
  | .str | .bytes | .list | .tuple | .range | .dict | .set | .frozenset => true
  | .named "dict_keys" | .named "dict_values" | .named "dict_items" => true
  | _ => false

/-- Classes whose values can be read by index or key. -/
def isIndexed : Class → Bool
  | .str | .bytes | .list | .tuple | .range | .dict => true
  | _ => false

/-- Whether the values of a class have a method. -/
def hasMethod (c : Class) (name : String) : Bool :=
  (methodNames c).contains name || commonMethods.contains name
    || (name == "__len__" && isSized c)
    || (name == "__contains__" && isSized c && c != .named "dict_values")
    || (name == "__getitem__" && isIndexed c)
    || (name == "__bool__" && [Class.int, .bool, .float, .complex, .sql, .none].contains c)
    || (name == "__iter__" && (isSized c || c == .compiled || c == .generator))
    || (name == "__next__" && c == .generator)
    || (name == "__add__" && [Class.str, .bytes, .list, .tuple, .int, .float, .sql].contains c)

/-! ## Reading -/

/-- The parts of a number. -/
def numberPart? (n : Number) (field : String) : Option Number :=
  match n, field with
  | .int n, "real" | .int n, "numerator" => some (.int n)
  | .int _, "imag" => some (.int 0)
  | .int _, "denominator" => some (.int 1)
  | .float x, "real" => some (.float x)
  | .float _, "imag" => some (.float 0)
  | .complex re _, "real" => some (.float re)
  | .complex _ im, "imag" => some (.float im)
  | _, _ => none

/-- What a class has behind a dot. -/
def classAttribute? (c : Class) (field : String) : Option Val :=
  match field with
  | "__name__" | "__qualname__" => some (.str c.name)
  | "__module__" => some (.str (c.module.getD "builtins"))
  | "__class__" => some (.type c.classOf)
  | field => if hasMethod c field then some (.unbound c field) else none

/-- The names of a generator: that of what it was made by, with or without what is around it. -/
def generatorName? (it : Iterator) (field : String) : Option Val := do
  let name ← match it with
    | .generator g => some g.name
    | .yielding name .. => some name
    | _ => none
  match field with
  | "__name__" => some (.str ((name.splitOn ".").getLastD name))
  | "__qualname__" => some (.str name)
  | _ => none

/-- Fields as a dictionary. -/
def fieldTable (fields : List (String × Val)) : Eval (Option Val) := do
  let entries := fields.map fun f => (Val.str f.1, f.2)
  pure (some (← Eval.make (.dict entries.toArray)))

/-- The fields of the values that have some. -/
def field? (v : Val) (field : String) : Eval (Option Val) := do
  match v, field with
  | .literal fragment, "__dict__" => fieldTable [("fragment", .str fragment)]
  | .argument value, "__dict__" => fieldTable [("value", value)]
  | .splat items, "__dict__" => fieldTable [("args", .tuple items)]
  | .sql args, "__dict__" => fieldTable [("args", .tuple (args.map ofNode))]
  | .literal fragment, "fragment" => pure (some (.str fragment))
  | .argument value, "value" => pure (some value)
  | .splat items, "args" => pure (some (.tuple items))
  | .sql args, "args" => pure (some (.tuple (args.map ofNode)))
  | .range start _ _, "start" => pure (some (.int start))
  | .range _ stop _, "stop" => pure (some (.int stop))
  | .range _ _ step, "step" => pure (some (.int step))
  | .slice start _ _, "start" => pure (some start)
  | .slice _ stop _, "stop" => pure (some stop)
  | .slice _ _ step, "step" => pure (some step)
  | .builtin name, "__name__" | .method _ name, "__name__" | .unbound _ name, "__name__" =>
      pure (some (.str name))
  | .method self _, "__self__" => pure (some self)
  | .type c, field => pure (classAttribute? c field)
  | .union members, "__args__" => pure (some (.tuple (members.map .type)))
  | .object address, field => do
      match ← Eval.load address, field with
      | .record fields, "__dict__" => fieldTable fields
      | .compiled sql params, "__dict__" => fieldTable [("sql", sql), ("params", params)]
      | .record _, "__class__" => pure none
      | .record fields, field => pure (fields.lookup field)
      | .compiled sql _, "sql" => pure (some sql)
      | .compiled _ params, "params" => pure (some params)
      | .function _, "__name__" => pure (some (.str "<lambda>"))
      | .function f, "__qualname__" => pure (some (.str f.name))
      | .function f, field => pure (f.fields.lookup field)
      | .iterator it, field => pure (generatorName? it field)
      | _, _ => pure none
  | .nan _, "real" => pure (some v)
  | v, field => do
      match (asNumber? v).bind (numberPart? · field) with
      | some n => do pure (some (← n.toVal))
      | none => pure none

/-- The value of an attribute. -/
def readAttribute (v : Val) (field : String) : Eval Val := do
  match ← field? v field with
  | some w => pure w
  | none => do
      let c ← classOf v
      match v with
      | .type _ => Eval.fail .missingAttribute
      | v =>
          if field == "__class__" then pure (.type c)
          else if hasMethod c field then pure (.method v field)
          else Eval.fail .missingAttribute

/-! ## Writing -/

/-- The class that a value is, or that it belongs to. -/
def isPieceOfQuery : Class → Bool
  | .literal | .argument | .splat | .sql => true
  | _ => false

/-- Fields with a new value for one of them. -/
def withField (field : String) (w : Val) (fields : List (String × Val)) : List (String × Val) :=
  if fields.any (·.1 == field) then fields.map fun f => if f.1 == field then (field, w) else f
  else fields ++ [(field, w)]

/-- Sets an attribute. -/
def writeAttribute (v : Val) (field : String) (w : Val) : Eval Unit := do
  if isPieceOfQuery (← classOf v) then Eval.fail .frozen
  match v with
  | .object address => do
      match ← Eval.load address with
      | .record fields =>
          Eval.save address (.record (withField field w fields))
      | .compiled sql params =>
          match field with
          | "sql" => Eval.save address (.compiled w params)
          | "params" => Eval.save address (.compiled sql w)
          | _ => pure ()
      | .function f =>
          Eval.save address (.function { f with fields := withField field w f.fields })
      | _ => Eval.fail .missingAttribute
  | .type c =>
      if [Class.node, .literal, .argument, .splat, .sql, .compiled, .record].contains c then pure ()
      else Eval.fail .wrongType
  | _ => Eval.fail .missingAttribute

/-- Sets an element by index or key. -/
def writeItem (v index w : Val) : Eval Unit := do
  match v with
  | .object address => do
      match ← Eval.load address with
      | .list items => do
          let i ← Eval.orFail .wrongType (asInt? index)
          let place ← Eval.orFail .outOfRange (place? items.size i)
          Eval.save address (.list (items.setIfInBounds place w))
      | .dict entries => do Eval.save address (.dict (← insertEntry entries index w))
      | _ => Eval.fail .wrongType
  | _ => Eval.fail .wrongType

end BoundSql.Value
